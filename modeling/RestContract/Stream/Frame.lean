import RestContract.Text.Blank
import RestContract.Text.Utf8

/-!
# Frames of streamed events

An event is framed as one line for each line of its payload, marked `data`, and an empty
line behind them. Reading joins the marked lines up to an empty one again; comments and
lines with other marks are passed over.
-/

namespace RestContract.Frame

/-- The line feed, which alone ends the lines of a payload. -/
def lineFeed : UInt8 := 10

/-- A line of a payload in its frame. -/
def dataLine (line : Bytes) : Bytes := Utf8.encode "data: " ++ line ++ [lineFeed]

/-- The frame of a payload. -/
def encode (payload : Bytes) : Bytes :=
  (Text.splitAt lineFeed payload).flatMap dataLine ++ [lineFeed]

/-- What a line adds to an event, none when its mark is another one; one blank behind the mark is
dropped. -/
def dataOf? (line : String) : Option String :=
  match Text.cut ':' line.toList with
  | (field, value) =>
    if String.ofList field = "data" then
      let value := value.getD []
      some (String.ofList (if value.head? = some ' ' then value.drop 1 else value))
    else none

/-- The payload of the lines gathered for an event, none when there are no lines. -/
def gathered (lines : List String) : List String :=
  if lines.isEmpty then [] else ["\n".intercalate lines]

/-- The payloads in lines that follow those gathered for the first event. -/
def readFrom (buffer : List String) : List String → List String
  | [] => gathered buffer
  | line :: rest =>
    if line.isEmpty then gathered buffer ++ readFrom [] rest
    else match dataOf? line with
      | some data => readFrom (buffer ++ [data]) rest
      | none => readFrom buffer rest

/-- The payloads in some lines. -/
def read (lines : List String) : List String := readFrom [] lines

end RestContract.Frame

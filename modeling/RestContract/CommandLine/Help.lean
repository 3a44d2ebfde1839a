import RestContract.CommandLine.Grammar
import RestContract.Text.Terminal
import RestContract.Text.Quoted

/-!
# Pages of help

A page of help shows how a command is called, what it does, its switches and, where it
has some, the commands below it. Tables have two columns, of which the first one is as
wide as its widest entry.
-/

namespace RestContract.CommandLine

/-- What the program leaves behind. -/
structure Report where
  /-- Zero when all went well. -/
  exitCode : Nat
  /-- The text that was shown. -/
  output : String
  deriving DecidableEq, Repr

/-- A text whose lines end in a line feed only. -/
def withLineFeeds : List Char → List Char
  | [] => []
  | '\r' :: '\n' :: cs => '\n' :: withLineFeeds cs
  | c :: cs => c :: withLineFeeds cs

/-- The report that shows a text, without terminal codes and with escapes for halves of surrogate
pairs. -/
def Report.of (exitCode : Nat) (text : String) : Report :=
  ⟨exitCode, String.ofList (withLineFeeds (Text.escapeHalves (Text.withoutCodes text)).toList)⟩

/-- The lines of a table of two columns. -/
def table (rows : List (String × String)) : List String :=
  let width := (rows.map fun r => r.1.length).foldl max 0
  rows.map fun r => "  " ++ Text.padRight (width + 2) r.1 ++ r.2

/-- The words of a text that fit into a width, one after another. -/
def fitting (width : Nat) (line : String) : List String → String
  | [] => line
  | word :: rest =>
    let longer := if line.isEmpty then word else line ++ " " ++ word
    if longer.length ≤ width then fitting width longer rest else line

/-- A text, cut at a word and marked as cut when it is too long. -/
def abridge (width : Nat) (s : String) : String :=
  if s.length ≤ width then s
  else fitting (width - 3) "" ((Text.splitAt ' ' s.toList).map String.ofList) ++ "..."

/-- How a switch is written. -/
def Switch.shown (s : Switch) : String :=
  (s.short.map fun c => String.ofList ['-', c] ++ ", ").getD "" ++ s.long ++
    (s.off.map fun name => " / " ++ name).getD "" ++ (if s.takesText then " TEXT" else "")

namespace Grammar

/-- How a command is called. -/
def usage (g : Grammar) : String :=
  "Usage: " ++ g.title ++ " [OPTIONS]" ++ String.join (g.operands.map (" " ++ ·))

/-- The page of help of a command with the commands below it, by their names. -/
def helpPage (g : Grammar) (below : List (String × Grammar)) : String :=
  let width := (below.map fun c => c.1.length).foldl max 0
  let commands :=
    if below.isEmpty then []
    else ["", "Commands:"] ++ table (below.map fun c => (c.1, abridge (72 - width) c.2.about))
  "\n".intercalate ([g.usage, "", "  " ++ g.about, "", "Options:"] ++
    table (g.switches.map fun s => (s.shown, s.about)) ++ commands) ++ "\n"

/-- The report on refused arguments; what concerns a single switch is told without the usage. -/
def refuse (g : Grammar) (f : UsageFault) : Report :=
  let usage := if f.isPlain then "" else g.usage ++ "\nTry '" ++ g.title ++ " --help' for help.\n\n"
  Report.of 2 (usage ++ "Error: " ++ f.message ++ "\n")

end Grammar

end RestContract.CommandLine

import RestContract.Endpoint.Payload
import RestContract.Proofs.Stream.Frames

/-!
# Frames that are read line by line

A client does not cut a stream at line feeds alone: a line of a text ends at a line feed, a carriage
return or both together, and at eight further characters as well. A frame keeps only the line feeds
of its payload apart. So a payload is received exactly when none of its characters but line feeds
ends a line. One that is not received does not spoil the others, since the empty line behind it
still ends its frame.
-/

namespace RestContract

namespace Text

/-- Whether a character ends a line of a text. -/
def endsLine (c : Char) : Bool :=
  ['\n', '\x0B', '\x0C', '\r', '\x1C', '\x1D', '\x1E', '\u0085', '\u2028', '\u2029'].contains c

/-- The lines of a text without what ends them; a carriage return and a line feed behind it end a
line together. -/
def lines : List Char → List (List Char)
  | [] => []
  | c :: cs =>
    if c = '\r' ∧ cs.head? = some '\n' then lines cs
    else if endsLine c then [] :: lines cs
    else match lines cs with
      | [] => [[c]]
      | line :: rest => (c :: line) :: rest

/-- A line feed behind an empty line. -/
theorem lines_cons_feed (cs : List Char) : lines ('\n' :: cs) = [] :: lines cs := by
  have hreturn : '\n' ≠ '\r' := by decide
  rw [lines, if_neg fun h => hreturn h.1, if_pos (by decide)]

private theorem lines_cons_of_not {c : Char} (h : endsLine c = false) (cs : List Char) :
    lines (c :: cs) = match lines cs with
      | [] => [[c]]
      | line :: rest => (c :: line) :: rest := by
  have hreturn : c ≠ '\r' := by
    rintro rfl
    cases h
  rw [lines, if_neg fun hc => hreturn hc.1, h, if_neg Bool.false_ne_true]

private theorem lines_append_feed {line : List Char} (h : ∀ c ∈ line, endsLine c = false)
    (rest : List Char) : lines (line ++ '\n' :: rest) = line :: lines rest := by
  induction line with
  | nil => exact lines_cons_feed rest
  | cons c cs ih =>
    obtain ⟨hc, hcs⟩ := List.forall_mem_cons.mp h
    rw [List.cons_append, lines_cons_of_not hc, ih hcs]

private theorem lines_flatMap {ls : List (List Char)}
    (h : ∀ line ∈ ls, ∀ c ∈ line, endsLine c = false) :
    lines (ls.flatMap fun line => line ++ ['\n']) = ls := by
  induction ls with
  | nil => rfl
  | cons line rest ih =>
    obtain ⟨hline, hrest⟩ := List.forall_mem_cons.mp h
    rw [List.flatMap_cons, List.append_assoc, List.singleton_append, lines_append_feed hline,
      ih hrest]

/-- No line holds a character that ends one. -/
theorem endsLine_of_mem_lines {cs line : List Char} (h : line ∈ lines cs) :
    ∀ c ∈ line, endsLine c = false := by
  induction cs generalizing line with
  | nil => cases h
  | cons d ds ih =>
    rw [lines] at h
    split at h
    · exact ih h
    split at h
    · rcases List.mem_cons.mp h with rfl | h
      · exact fun _ hc => absurd hc List.not_mem_nil
      · exact ih h
    next hd =>
      rw [Bool.not_eq_true] at hd
      split at h
      · obtain rfl := List.mem_singleton.mp h
        exact List.forall_mem_singleton.mpr hd
      next first rest hlines =>
        rw [hlines] at ih
        rcases List.mem_cons.mp h with rfl | h
        · exact List.forall_mem_cons.mpr ⟨hd, ih List.mem_cons_self⟩
        · exact ih (List.mem_cons_of_mem _ h)

/-- A text that is not empty has a line. -/
theorem lines_ne_nil {cs : List Char} (h : cs ≠ []) : lines cs ≠ [] := by
  induction cs with
  | nil => exact absurd rfl h
  | cons c cs ih =>
    rw [lines]
    split
    next hc =>
      refine ih ?_
      rintro rfl
      cases hc.2
    next =>
      split
      · exact List.cons_ne_nil _ _
      · split <;> exact List.cons_ne_nil _ _

/-- Behind a line feed the lines are those of the rest. -/
theorem lines_append (front back : List Char) :
    lines (front ++ '\n' :: back) = lines (front ++ ['\n']) ++ lines back := by
  induction front with
  | nil =>
    rw [List.nil_append, List.nil_append, lines_cons_feed, lines_cons_feed]
    rfl
  | cons c cs ih =>
    have hhead : (cs ++ '\n' :: back).head? = (cs ++ ['\n']).head? := by cases cs <;> rfl
    rw [List.cons_append, List.cons_append, lines, lines, hhead, ih]
    split
    · rfl
    split
    · rfl
    · cases hlines : lines (cs ++ ['\n']) with
      | nil => exact absurd hlines (lines_ne_nil (List.append_ne_nil_of_right_ne_nil _ nofun))
      | cons line rest => rfl

end Text

namespace Frame

/-- The payloads in the lines of a text. -/
def readText (cs : List Char) : List String := read ((Text.lines cs).map String.ofList)

/-- What a client receives that reads the frames of payloads, one after the other, by the lines of
their text. -/
def received (payloads : List String) : Option (List String) :=
  (Utf8.decode? (payloads.flatMap fun payload => encode (Utf8.encode payload))).map fun text =>
    readText text.toList

/-- The characters of the frame of a payload. -/
def frameChars (payload : String) : List Char :=
  (frameLines payload).flatMap fun line => line.toList ++ ['\n']

private theorem received_eq (payloads : List String) :
    received payloads = some (readText (payloads.flatMap frameChars)) := by
  have hbytes : payloads.flatMap (fun payload => encode (Utf8.encode payload)) =
      Utf8.encode (String.ofList (payloads.flatMap frameChars)) := by
    rw [Utf8.encode, String.toList_ofList, Utf8.encodeChars, List.flatMap_assoc]
    exact congrArg (payloads.flatMap ·) (funext encode_eq)
  rw [received, hbytes, Utf8.decode?_encode, Option.map_some, String.toList_ofList]

/-- An empty line ends what was gathered before it. -/
theorem readFrom_append_empty (buffer front back : List String) :
    readFrom buffer (front ++ "" :: back) =
      readFrom buffer (front ++ [""]) ++ readFrom [] back := by
  induction front generalizing buffer with
  | nil =>
    rw [List.nil_append, List.nil_append, readFrom, readFrom, if_pos (by rfl), if_pos (by rfl)]
    simp [readFrom, gathered]
  | cons line rest ih =>
    rw [List.cons_append, List.cons_append, readFrom, readFrom]
    split
    · rw [ih, List.append_assoc]
    · split <;> exact ih _

private theorem exists_frameChars_eq (payload : String) :
    ∃ body, frameChars payload = body ++ '\n' :: ['\n'] := by
  have hlines : payloadLines payload ≠ [] := by
    rw [payloadLines, ne_eq, List.map_eq_nil_iff]
    exact Text.splitAt_ne_nil _ _
  obtain ⟨front, last, hsplit⟩ := (List.eq_nil_or_concat _).resolve_left hlines
  refine ⟨(front.map ("data: " ++ ·)).flatMap (fun line => line.toList ++ ['\n']) ++
    ("data: " ++ last).toList, ?_⟩
  rw [frameChars, frameLines, hsplit]
  simp

/-- Frames are read one after the other. -/
theorem readText_frames (payloads : List String) :
    readText (payloads.flatMap frameChars) =
      payloads.flatMap fun payload => readText (frameChars payload) := by
  induction payloads with
  | nil => rfl
  | cons payload rest ih =>
    obtain ⟨body, hbody⟩ := exists_frameChars_eq payload
    have hlines : ∀ back, Text.lines (frameChars payload ++ back) =
        Text.lines (body ++ ['\n']) ++ [] :: Text.lines back := by
      intro back
      rw [hbody, List.append_assoc, List.cons_append, List.singleton_append, Text.lines_append,
        Text.lines_cons_feed]
    have hread : ∀ back, readText (frameChars payload ++ back) =
        readFrom [] ((Text.lines (body ++ ['\n'])).map String.ofList ++ [""]) ++
          readText back := by
      intro back
      rw [readText, hlines, List.map_append, List.map_cons]
      exact readFrom_append_empty _ _ _
    rw [List.flatMap_cons, List.flatMap_cons, hread, ih, ← List.append_nil (frameChars payload),
      hread]
    exact congrArg (· ++ _) (List.append_nil _).symm

/-! ## Payloads that are received -/

/-- Of the characters of a text only line feeds end a line. -/
def KeepsLines (text : String) : Prop := ∀ c ∈ text.toList, Text.endsLine c = true → c = '\n'

/-- So it is for the part of a line that it adds to an event. -/
theorem KeepsLines.dataOf? {line data : String} (h : KeepsLines line)
    (hdata : Frame.dataOf? line = some data) : KeepsLines data := by
  have hcut := Text.cut_append ':' line.toList
  unfold Frame.dataOf? at hdata
  rcases hparts : Text.cut ':' line.toList with ⟨field, _ | value⟩
  · rw [hparts] at hdata
    dsimp only at hdata
    split at hdata
    · obtain rfl := Option.some.inj hdata
      exact fun c hc => absurd hc (by simp)
    · cases hdata
  · rw [hparts] at hcut hdata
    dsimp only [Option.getD_some] at hcut hdata
    have hvalue : ∀ c ∈ value, Text.endsLine c = true → c = '\n' := fun c hc =>
      h c (hcut ▸ List.mem_append_right _ (List.mem_cons_of_mem _ hc))
    split at hdata
    · obtain rfl := Option.some.inj hdata
      intro c hc
      rw [String.toList_ofList] at hc
      split at hc
      · exact hvalue c (List.mem_of_mem_drop hc)
      · exact hvalue c hc
    · cases hdata

/-- So it is for lines that are joined. -/
theorem keepsLines_gathered {lines : List String} (h : ∀ line ∈ lines, KeepsLines line)
    {payload : String} (hp : payload ∈ gathered lines) : KeepsLines payload := by
  rw [gathered] at hp
  split at hp
  · cases hp
  obtain rfl := List.mem_singleton.mp hp
  clear * - h
  unfold KeepsLines
  rw [String.toList_intercalate]
  induction lines with
  | nil => exact fun c hc => absurd hc List.not_mem_nil
  | cons line rest ih =>
    obtain ⟨hline, hrest⟩ := List.forall_mem_cons.mp h
    cases rest with
    | nil => simpa using show ∀ c ∈ line.toList, _ from hline
    | cons second rest =>
      intro c hc
      rw [List.map_cons, List.map_cons, List.intercalate_cons_cons, List.append_assoc] at hc
      rcases List.mem_append.mp hc with hc | hc
      · exact hline c hc
      rcases List.mem_append.mp hc with hc | hc
      · exact fun _ => List.mem_singleton.mp hc
      · exact ih hrest c hc

/-- So it is for what is read from such lines. -/
theorem keepsLines_readFrom {buffer lines : List String}
    (hbuffer : ∀ line ∈ buffer, KeepsLines line) (hlines : ∀ line ∈ lines, KeepsLines line) :
    ∀ payload ∈ readFrom buffer lines, KeepsLines payload := by
  induction lines generalizing buffer with
  | nil => exact fun payload => keepsLines_gathered hbuffer
  | cons line rest ih =>
    obtain ⟨hline, hrest⟩ := List.forall_mem_cons.mp hlines
    rw [readFrom]
    split
    · intro payload hp
      rcases List.mem_append.mp hp with hp | hp
      · exact keepsLines_gathered hbuffer hp
      · exact ih (fun _ hnone => absurd hnone List.not_mem_nil) hrest payload hp
    · split
      next data hdata =>
        refine ih (fun other ho => ?_) hrest
        rcases List.mem_append.mp ho with ho | ho
        · exact hbuffer other ho
        · exact List.mem_singleton.mp ho ▸ hline.dataOf? hdata
      next => exact ih hbuffer hrest

/-- What is read from the lines of a text holds no character but line feeds that ends a line. -/
theorem keepsLines_readText {cs : List Char} {payload : String} (h : payload ∈ readText cs) :
    KeepsLines payload := by
  refine keepsLines_readFrom (fun _ hnone => absurd hnone List.not_mem_nil)
    (fun line hline => ?_) payload h
  obtain ⟨chars, hchars, rfl⟩ := List.mem_map.mp hline
  intro c hc hend
  rw [String.toList_ofList] at hc
  rw [Text.endsLine_of_mem_lines hchars c hc] at hend
  cases hend

/-- The lines of a frame are those of its text, where only line feeds end lines of the payload. -/
theorem KeepsLines.lines_frameChars {payload : String} (h : KeepsLines payload) :
    (Text.lines (frameChars payload)).map String.ofList = frameLines payload := by
  have hfree : ∀ line ∈ (frameLines payload).map String.toList, ∀ c ∈ line,
      Text.endsLine c = false := by
    intro chars hchars c hc
    obtain ⟨line, hline, rfl⟩ := List.mem_map.mp hchars
    rcases List.mem_append.mp hline with hline | hline
    · obtain ⟨text, htext, rfl⟩ := List.mem_map.mp hline
      obtain ⟨piece, hpiece, rfl⟩ := List.mem_map.mp htext
      have hmark : ∀ c ∈ "data: ".toList, Text.endsLine c = false := by
        simp [Text.endsLine]
      have hchars : ("data: " ++ String.ofList piece).toList = "data: ".toList ++ piece :=
        String.toList_append.trans (congrArg _ String.toList_ofList)
      rw [hchars] at hc
      rcases List.mem_append.mp hc with hc | hc
      · exact hmark c hc
      · have hflat := List.mem_flatten.mpr ⟨piece, hpiece, hc⟩
        rw [Text.flatten_splitAt] at hflat
        obtain ⟨hmem, hne⟩ := List.mem_filter.mp hflat
        rw [← Bool.not_eq_true]
        exact fun hend => of_decide_eq_true hne (h c hmem hend)
    · rw [List.mem_singleton.mp hline] at hc
      cases hc
  have hframe : frameChars payload =
      ((frameLines payload).map String.toList).flatMap fun line => line ++ ['\n'] := by
    rw [List.flatMap_map, frameChars]
  rw [hframe, Text.lines_flatMap hfree, List.map_map]
  simp

/-- A payload is read from its frame exactly when only line feeds end lines of it. -/
theorem readText_frameChars_iff (payload : String) :
    readText (frameChars payload) = [payload] ↔ KeepsLines payload := by
  constructor
  · intro h
    exact keepsLines_readText (h ▸ List.mem_singleton_self payload)
  · intro h
    rw [readText, h.lines_frameChars, read, ← List.append_nil (frameLines payload),
      readFrom_frameLines]
    rfl

/-- A client that reads frames by the lines of their text receives a part for each of the payloads,
in their order. The part of a payload is the payload exactly when no character of it but line feeds
ends a line. So the client receives the payloads exactly when this is so for all of them. -/
theorem received_iff (payloads : List String) :
    ∃ parts, received payloads = some parts.flatten ∧
      List.Forall₂ (fun payload part => received [payload] = some part ∧
        (part = [payload] ↔ KeepsLines payload)) payloads parts ∧
      (received payloads = some payloads ↔ ∀ payload ∈ payloads, KeepsLines payload) := by
  refine ⟨payloads.map fun payload => readText (frameChars payload), ?_, ?_, ?_⟩
  · rw [received_eq, readText_frames, List.flatMap_def]
  · rw [List.forall₂_map_right_iff]
    refine List.forall₂_same.mpr fun payload _ => ⟨?_, readText_frameChars_iff payload⟩
    rw [received_eq, List.flatMap_singleton]
  · rw [received_eq, Option.some.injEq]
    constructor
    · intro h payload hp
      exact keepsLines_readText (h.symm ▸ hp)
    · intro h
      rw [readText_frames]
      induction payloads with
      | nil => rfl
      | cons payload rest ih =>
        obtain ⟨hp, hrest⟩ := List.forall_mem_cons.mp h
        rw [List.flatMap_cons, (readText_frameChars_iff payload).mpr hp, ih hrest]
        rfl

/-- The line separator stands in the payload of a text as it is, and what is behind it is lost. -/
theorem not_received_separated :
    Payload.encode (.text "a\u2028b") = .ok (Utf8.encode "\"a\u2028b\"") ∧
      '\n' ∉ "\"a\u2028b\"".toList ∧ '\r' ∉ "\"a\u2028b\"".toList ∧
      received ["\"a\u2028b\""] = some ["\"a"] ∧
      ¬∀ payloads : List String,
        (∀ payload ∈ payloads, '\n' ∉ payload.toList ∧ '\r' ∉ payload.toList) →
          received payloads = some payloads := by
  have hreceived : received ["\"a\u2028b\""] = some ["\"a"] := by decide
  refine ⟨by cbv, by decide, by decide, hreceived, fun h => ?_⟩
  have hwhole := h ["\"a\u2028b\""] (List.forall_mem_singleton.mpr ⟨by decide, by decide⟩)
  rw [hreceived] at hwhole
  exact absurd hwhole (by decide)

end Frame

end RestContract

import RestContract.Proofs.Utf8
import RestContract.Stream.Frame

/-!
# Reading framed events

The frame of a payload ends with a line feed, and so does each of its lines, so cutting the frames
of many payloads at every line feed gives their lines one frame after the other. A line feed is one
byte and part of no other character: it does not matter whether bytes or characters are cut. The
lines of a frame are gathered up to the empty one and joined again. A line that is no part of an
event changes nothing of what is gathered, wherever it stands.
-/

namespace RestContract

namespace Text

variable {α β : Type} [DecidableEq α] [DecidableEq β]

theorem splitAt_nil (mark : α) : splitAt mark [] = [[]] := rfl

theorem splitAt_cons_self (mark : α) (cs : List α) :
    splitAt mark (mark :: cs) = [] :: splitAt mark cs := if_pos rfl

/-- There is always a piece. -/
theorem splitAt_ne_nil (mark : α) (l : List α) : splitAt mark l ≠ [] := by
  cases l with
  | nil => exact List.cons_ne_nil _ _
  | cons c cs =>
    change (if c = mark then _ else _) ≠ _
    split
    · exact List.cons_ne_nil _ _
    · split <;> exact List.cons_ne_nil _ _

/-- What is no mark belongs to the first piece. -/
theorem splitAt_cons_of_ne {mark c : α} (h : c ≠ mark) (cs : List α) :
    splitAt mark (c :: cs) = (splitAt mark cs).modifyHead (c :: ·) := by
  refine (if_neg h).trans ?_
  cases hs : splitAt mark cs with
  | nil => exact absurd hs (splitAt_ne_nil mark cs)
  | cons piece pieces => rfl

/-- Several items that are no marks belong to the first piece. -/
theorem splitAt_append_of_notMem {mark : α} {front : List α} (h : mark ∉ front) (back : List α) :
    splitAt mark (front ++ back) = (splitAt mark back).modifyHead (front ++ ·) := by
  induction front with
  | nil => exact List.modifyHead_id.symm ▸ rfl
  | cons c cs ih =>
    rw [List.mem_cons, not_or] at h
    rw [List.cons_append, splitAt_cons_of_ne (Ne.symm h.1), ih h.2, List.modifyHead_modifyHead]
    rfl

private theorem splitAt_flatMap {mark : α} {lines : List (List α)}
    (h : ∀ line ∈ lines, mark ∉ line) :
    splitAt mark (lines.flatMap fun line => line ++ [mark]) = lines ++ [[]] := by
  induction lines with
  | nil => rfl
  | cons line rest ih =>
    have hline : mark ∉ line := h line List.mem_cons_self
    have hrest := ih fun other ho => h other (List.mem_cons_of_mem _ ho)
    rw [List.flatMap_cons, List.append_assoc, splitAt_append_of_notMem hline, List.singleton_append,
      splitAt_cons_self, hrest, List.modifyHead_cons, List.append_nil, List.cons_append]

/-- No piece holds a mark. -/
theorem notMem_of_mem_splitAt {mark : α} {l piece : List α} (h : piece ∈ splitAt mark l) :
    mark ∉ piece := by
  induction l generalizing piece with
  | nil =>
    rw [splitAt_nil, List.mem_singleton] at h
    rw [h]
    exact List.not_mem_nil
  | cons c cs ih =>
    by_cases hc : c = mark
    · rw [hc, splitAt_cons_self] at h
      rcases List.mem_cons.mp h with rfl | h
      · exact List.not_mem_nil
      · exact ih h
    · rw [splitAt_cons_of_ne hc] at h
      cases hs : splitAt mark cs with
      | nil => exact absurd hs (splitAt_ne_nil mark cs)
      | cons first others =>
        rw [hs, List.modifyHead_cons] at h
        rcases List.mem_cons.mp h with rfl | h
        · rw [List.mem_cons, not_or]
          exact ⟨Ne.symm hc, ih (hs ▸ List.mem_cons_self)⟩
        · exact ih (hs ▸ List.mem_cons_of_mem _ h)

/-- The pieces hold what is no mark. -/
theorem flatten_splitAt (mark : α) (l : List α) :
    (splitAt mark l).flatten = l.filter fun c => c ≠ mark := by
  induction l with
  | nil => rfl
  | cons c cs ih =>
    by_cases hc : c = mark
    · rw [List.filter_cons_of_neg (by simpa using hc), hc, splitAt_cons_self, List.flatten_cons, ih]
      rfl
    · rw [splitAt_cons_of_ne hc, List.filter_cons_of_pos (by simpa using hc), ← ih]
      cases hs : splitAt mark cs with
      | nil => exact absurd hs (splitAt_ne_nil mark cs)
      | cons piece pieces => rfl

/-- The pieces with marks between them are what was cut. -/
theorem intercalate_splitAt (mark : α) (l : List α) : [mark].intercalate (splitAt mark l) = l := by
  induction l with
  | nil => rfl
  | cons c cs ih =>
    cases hs : splitAt mark cs with
    | nil => exact absurd hs (splitAt_ne_nil mark cs)
    | cons first others =>
      rw [hs] at ih
      by_cases hc : c = mark
      · rw [hc, splitAt_cons_self, hs, List.intercalate_cons_cons, ih]
        rfl
      · rw [splitAt_cons_of_ne hc, hs, List.modifyHead_cons]
        cases others with
        | nil =>
          rw [List.intercalate_singleton] at ih ⊢
          rw [ih]
        | cons second others =>
          rw [List.intercalate_cons_cons] at ih ⊢
          rw [← ih, List.cons_append, List.cons_append]

/-- Where every item is coded as several, and only the mark as one that counts as a mark there,
cutting before or after coding is the same. -/
theorem splitAt_flatMap_code {mark : α} {sign : β} {code : α → List β} (hmark : code mark = [sign])
    (hother : ∀ c, c ≠ mark → sign ∉ code c) (l : List α) :
    splitAt sign (l.flatMap code) = (splitAt mark l).map fun piece => piece.flatMap code := by
  induction l with
  | nil => rfl
  | cons c cs ih =>
    rw [List.flatMap_cons]
    by_cases hc : c = mark
    · rw [hc, hmark, List.singleton_append, splitAt_cons_self, ih, splitAt_cons_self]
      rfl
    · rw [splitAt_append_of_notMem (hother c hc), ih, splitAt_cons_of_ne hc]
      cases splitAt mark cs <;> rfl

end Text

namespace Frame

private theorem encodeChar_lineFeed : Utf8.encodeChar '\n' = [lineFeed] := by decide

/-- No other character has the byte of a line feed. -/
theorem lineFeed_notMem_encodeChar {c : Char} (h : c ≠ '\n') : lineFeed ∉ Utf8.encodeChar c := by
  have hcode : c.toNat ≠ 10 := fun hc => h (Char.toNat_inj.mp hc)
  have hvalid := Utf8.toNat_scalar c
  have hbyte : ∀ n, n < 256 → n ≠ 10 → lineFeed ≠ UInt8.ofNat n := by
    intro n hn hne heq
    have hnat := congrArg UInt8.toNat heq
    rw [Utf8.toNat_byte hn] at hnat
    exact hne hnat.symm
  unfold Utf8.encodeChar
  dsimp only
  generalize c.toNat = n at hcode hvalid
  -- One case for each length: a byte of a character that takes several is 128 or more.
  split
  · rw [List.mem_singleton]
    exact hbyte n (by omega) hcode
  split
  · simp only [List.mem_cons, List.not_mem_nil, or_false, not_or]
    exact ⟨hbyte _ (by omega) (by omega), hbyte _ (by omega) (by omega)⟩
  split
  · simp only [List.mem_cons, List.not_mem_nil, or_false, not_or]
    exact ⟨hbyte _ (by omega) (by omega), hbyte _ (by omega) (by omega),
      hbyte _ (by omega) (by omega)⟩
  · simp only [List.mem_cons, List.not_mem_nil, or_false, not_or]
    exact ⟨hbyte _ (by omega) (by omega), hbyte _ (by omega) (by omega),
      hbyte _ (by omega) (by omega), hbyte _ (by omega) (by omega)⟩

/-- Bytes are cut at line feeds where characters are. -/
theorem splitAt_encodeChars (cs : List Char) :
    Text.splitAt lineFeed (Utf8.encodeChars cs) =
      (Text.splitAt '\n' cs).map Utf8.encodeChars :=
  Text.splitAt_flatMap_code encodeChar_lineFeed (fun _ => lineFeed_notMem_encodeChar) cs

/-- The lines of a payload. -/
def payloadLines (payload : String) : List String :=
  (Text.splitAt '\n' payload.toList).map String.ofList

/-- The lines of the frame of a payload. -/
def frameLines (payload : String) : List String :=
  (payloadLines payload).map ("data: " ++ ·) ++ [""]

/-- No line of a frame holds a line feed. -/
theorem lineFeed_notMem_frameLines {payload line : String} (h : line ∈ frameLines payload) :
    '\n' ∉ line.toList := by
  rcases List.mem_append.mp h with h | h
  · obtain ⟨text, htext, rfl⟩ := List.mem_map.mp h
    obtain ⟨piece, hpiece, rfl⟩ := List.mem_map.mp htext
    have hchars : ("data: " ++ String.ofList piece).toList = "data: ".toList ++ piece :=
      String.toList_append.trans (congrArg _ String.toList_ofList)
    rw [hchars, List.mem_append, not_or]
    exact ⟨by decide, Text.notMem_of_mem_splitAt hpiece⟩
  · rw [List.mem_singleton.mp h]
    exact List.not_mem_nil

/-- The frame of a payload is its lines, each with a line feed behind it. -/
theorem encode_eq (payload : String) : encode (Utf8.encode payload) =
    Utf8.encodeChars ((frameLines payload).flatMap fun line => line.toList ++ ['\n']) := by
  have happend : ∀ cs ds, Utf8.encodeChars (cs ++ ds) =
      Utf8.encodeChars cs ++ Utf8.encodeChars ds := fun cs ds => List.flatMap_append
  have hlines : ∀ pieces : List (List Char), (pieces.map Utf8.encodeChars).flatMap dataLine =
      Utf8.encodeChars (((pieces.map String.ofList).map ("data: " ++ ·)).flatMap fun line =>
        line.toList ++ ['\n']) := by
    intro pieces
    induction pieces with
    | nil => rfl
    | cons piece rest ih =>
      simp only [List.map_cons, List.flatMap_cons, ih, happend, String.toList_append,
        String.toList_ofList, dataLine, Utf8.encode]
      rfl
  rw [encode, Utf8.encode, splitAt_encodeChars, hlines, frameLines, List.flatMap_append, happend]
  rfl

/-- Cutting frames at every line feed gives their lines, and an empty one behind the last. -/
theorem splitAt_frames (payloads : List String) :
    Text.splitAt lineFeed (payloads.flatMap fun payload => encode (Utf8.encode payload)) =
      (payloads.flatMap frameLines ++ [""]).map Utf8.encode := by
  have hframes : payloads.flatMap (fun payload => encode (Utf8.encode payload)) =
      Utf8.encodeChars (((payloads.flatMap frameLines).map String.toList).flatMap fun line =>
        line ++ ['\n']) := by
    induction payloads with
    | nil => rfl
    | cons payload rest ih =>
      rw [List.flatMap_cons, ih, encode_eq, List.flatMap_cons, List.map_append,
        List.flatMap_append, List.flatMap_map, List.flatMap_map]
      exact List.flatMap_append.symm
  have hfree : ∀ line ∈ (payloads.flatMap frameLines).map String.toList, '\n' ∉ line := by
    intro line hline
    obtain ⟨text, htext, rfl⟩ := List.mem_map.mp hline
    obtain ⟨payload, -, hmem⟩ := List.mem_flatMap.mp htext
    exact lineFeed_notMem_frameLines hmem
  rw [hframes, splitAt_encodeChars, Text.splitAt_flatMap hfree, List.map_append, List.map_append,
    List.map_map]
  rfl

private theorem dataOf?_data (line : String) : dataOf? ("data: " ++ line) = some line := by
  have hcut : Text.cut ':' ("data: " ++ line).toList =
      (['d', 'a', 't', 'a'], some (' ' :: line.toList)) := by
    rw [String.toList_append]
    rfl
  unfold dataOf?
  rw [hcut]
  exact congrArg some String.ofList_toList

private theorem gathered_payloadLines (payload : String) :
    gathered (payloadLines payload) = [payload] := by
  have hjoined : "\n".intercalate (payloadLines payload) = payload := by
    rw [← String.toList_inj, String.toList_intercalate, payloadLines, List.map_map]
    have hself : String.toList ∘ String.ofList = id := funext fun _ => String.toList_ofList
    rw [hself, List.map_id]
    exact Text.intercalate_splitAt '\n' payload.toList
  have hlines : payloadLines payload ≠ [] := by
    rw [payloadLines, ne_eq, List.map_eq_nil_iff]
    exact Text.splitAt_ne_nil _ _
  rw [gathered, if_neg (by simpa using hlines), hjoined]

private theorem readFrom_data (buffer lines rest : List String) :
    readFrom buffer (lines.map ("data: " ++ ·) ++ rest) = readFrom (buffer ++ lines) rest := by
  induction lines generalizing buffer with
  | nil => rw [List.map_nil, List.nil_append, List.append_nil]
  | cons line lines ih =>
    have hmarked : ("data: " ++ line).isEmpty = false := by simp
    rw [List.map_cons, List.cons_append, readFrom, hmarked, if_neg Bool.false_ne_true,
      dataOf?_data, List.append_cons]
    exact ih (buffer ++ [line])

/-- Reading the lines of a frame gives its payload, and nothing of it is left for the next one. -/
theorem readFrom_frameLines (payload : String) (rest : List String) :
    readFrom [] (frameLines payload ++ rest) = payload :: readFrom [] rest := by
  rw [frameLines, List.append_assoc, readFrom_data, List.nil_append, List.singleton_append,
    readFrom]
  rw [if_pos (by rfl), gathered_payloadLines, List.singleton_append]

/-- Reading the lines of frames gives their payloads. -/
theorem read_frameLines (payloads : List String) :
    read (payloads.flatMap frameLines ++ [""]) = payloads := by
  unfold read
  induction payloads with
  | nil => rfl
  | cons payload rest ih =>
    rw [List.flatMap_cons, List.append_assoc, readFrom_frameLines, ih]

/-! ## Lines that are no part of an event -/

/-- A line that is no part of an event: a comment, or a line under another mark. -/
def IsAside (line : String) : Prop :=
  line.toList.head? = some ':' ∨
    line ≠ "" ∧ String.ofList (Text.cut ':' line.toList).1 ≠ "data"

/-- Lines with others between them, at any places, that are no part of an event. -/
inductive Padded : List String → List String → Prop where
  /-- No lines. -/
  | nil : Padded [] []
  /-- A line of both. -/
  | keep (line : String) {lines padded : List String} : Padded lines padded →
      Padded (line :: lines) (line :: padded)
  /-- A line between the others. -/
  | aside {line : String} {lines padded : List String} : IsAside line → Padded lines padded →
      Padded lines (line :: padded)

/-- A line that is no part of an event is not empty and adds nothing. -/
theorem IsAside.passed_over {line : String} (h : IsAside line) :
    line.isEmpty = false ∧ dataOf? line = none := by
  have hmark : line ≠ "" ∧ String.ofList (Text.cut ':' line.toList).1 ≠ "data" := by
    rcases h with hcolon | hother
    · obtain ⟨rest, hrest⟩ := List.head?_eq_some_iff.mp hcolon
      constructor
      · rintro rfl
        cases hrest
      · rw [hrest, Text.cut, if_pos rfl]
        show String.ofList [] ≠ "data"
        decide
    · exact hother
  constructor
  · simpa using hmark.1
  · unfold dataOf?
    exact if_neg hmark.2

/-- What is read does not depend on lines that are no part of an event. -/
theorem readFrom_padded {lines padded : List String} (h : Padded lines padded)
    (buffer : List String) : readFrom buffer padded = readFrom buffer lines := by
  induction h generalizing buffer with
  | nil => rfl
  | keep line _ ih =>
    rw [readFrom, readFrom]
    simp only [ih]
  | aside haside _ ih =>
    obtain ⟨hline, hdata⟩ := haside.passed_over
    rw [readFrom, hline, if_neg Bool.false_ne_true, hdata]
    exact ih buffer

/-- Payloads that are framed one after the other, cut at every line feed and read are the payloads
again, whatever lines that are no part of an event are put between the others. -/
theorem read_frames (payloads : List String) :
    ∃ lines, (Text.splitAt lineFeed (payloads.flatMap fun payload =>
        encode (Utf8.encode payload))).mapM Utf8.decode? = some lines ∧
      read lines = payloads ∧ ∀ padded, Padded lines padded → read padded = payloads := by
  refine ⟨payloads.flatMap frameLines ++ [""], ?_, read_frameLines payloads, ?_⟩
  · rw [splitAt_frames, List.mapM_map]
    induction payloads.flatMap frameLines ++ [""] with
    | nil => rfl
    | cons line rest ih =>
      rw [List.mapM_cons, Function.comp_apply, Utf8.decode?_encode, ih]
      rfl
  · intro padded hpadded
    rw [read, readFrom_padded hpadded]
    exact read_frameLines payloads

/-- An empty payload and one whose lines look like a comment, a blank and nothing are read again
from between comments and lines under other marks. -/
theorem read_frames_of_noise :
    read [":", "data: ", "event: x", "", "data: :a", ": b", "data:  b", "retry", "data: ", "", ""] =
      ["", ":a\n b\n"] := by
  obtain ⟨lines, hlines, -, hpadded⟩ := read_frames ["", ":a\n b\n"]
  have hcut : lines = ["data: ", "", "data: :a", "data:  b", "data: ", "", ""] :=
    Option.some.inj (hlines.symm.trans (by decide))
  have hother : ∀ line, line ≠ "" → String.ofList (Text.cut ':' line.toList).1 ≠ "data" →
      IsAside line := fun _ hline hmark => Or.inr ⟨hline, hmark⟩
  apply hpadded
  rw [hcut]
  exact .aside (Or.inl rfl) (.keep _ (.aside (hother "event: x" (by decide) (by decide))
    (.keep _ (.keep _ (.aside (Or.inl rfl) (.keep _ (.aside (hother "retry" (by decide) (by decide))
      (.keep _ (.keep _ (.keep _ .nil))))))))))

end Frame

end RestContract

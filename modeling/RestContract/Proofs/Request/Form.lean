import Mathlib
import RestContract.Proofs.Handler.Words
import RestContract.Proofs.Request.Address

/-!
# Form-coded queries, read back

A name or value of a query is coded with letters, digits, a few marks, plus signs and escapes. None
of these is an ampersand, an equals sign, a question mark or a number sign, so a query is cut again
at its ampersands and each piece at its equals sign, whatever the names and values are. A plus sign
is read as a space before the escapes are, since only spaces were coded as one.
-/

namespace RestContract.Percent

/-- A plus sign is read as a space. -/
def spaced (c : Char) : Char := if c = '+' then ' ' else c

/-- The text of a coded name or value of a query, if its bytes are those of a text. -/
def readField? (cs : List Char) : Option String := Utf8.decode? (bytes (cs.map spaced))

/-- The name before the first equals sign, and the value behind it. -/
def readPair? (cs : List Char) : Option (String × String) :=
  match Text.cut '=' cs with
  | (name, some value) =>
    (readField? name).bind fun n => (readField? value).map fun v => (n, v)
  | (_, none) => none

/-- The names and values of a query. -/
def readPairs? (cs : List Char) : Option (List (String × String)) :=
  (Text.splitAt '&' cs).mapM readPair?

/-- Whether a character can stand in a coded name or value of a query. -/
def isFormChar (c : Char) : Bool := isUnreserved c || c = '%' || c = '+'

/-- Hexadecimal digits need no escape. -/
theorem isUnreserved_hexUpper : ∀ n < 16, isUnreserved (hexUpper n) = true := by decide

/-- Letters, digits, marks and percent signs are read as they stand. -/
theorem map_spaced {cs : List Char} (h : ∀ c ∈ cs, isUnreserved c = true ∨ c = '%') :
    cs.map spaced = cs := by
  have hself : ∀ c ∈ cs, spaced c = c := by
    intro c hc
    have hplus : ¬c = '+' := by
      rintro rfl
      rcases h '+' hc with h | h
      · exact absurd h (by decide)
      · exact absurd h (by decide)
    rw [spaced, if_neg hplus]
  rw [List.map_congr_left hself, List.map_id']

/-- A coded character is read as the bytes of the character. -/
theorem bytes_formChar (c : Char) (cs : List Char) :
    bytes ((formChar c).map spaced ++ cs) = Utf8.encodeChar c ++ bytes cs := by
  unfold formChar
  by_cases hc : c = ' '
  · subst hc
    exact bytes_cons (by decide) cs
  · rw [if_neg hc, map_spaced fun d hd => mem_escapeChar isUnreserved_hexUpper hd]
    exact bytes_escapeChar (by decide) c cs

private theorem bytes_formField (cs : List Char) :
    bytes ((formField cs).map spaced) = Utf8.encodeChars cs := by
  induction cs with
  | nil => rfl
  | cons c cs ih =>
    rw [formField, List.flatMap_cons, List.map_append, bytes_formChar]
    exact congrArg (Utf8.encodeChar c ++ ·) ih

/-- Coded bytes are read as these bytes. -/
theorem bytes_formBytes (bs : Bytes) : bytes ((formBytes bs).map spaced) = bs := by
  induction bs with
  | nil => rfl
  | cons b bs ih =>
    rw [formBytes] at ih ⊢
    rw [List.flatMap_cons, List.map_append]
    by_cases hb : b.toNat < 0x80
    · have hnat : (Char.ofNat b.toNat).toNat = b.toNat := by
        rw [Char.toNat_ofNat, if_pos (Or.inl (by omega))]
      have hbyte : Utf8.encodeChar (Char.ofNat b.toNat) = [b] := by
        simp only [Utf8.encodeChar, hnat, hb, if_true, UInt8.ofNat_toNat]
      rw [if_pos hb, bytes_formChar, hbyte, ih, List.singleton_append]
    · rw [if_neg hb, map_spaced fun c hc => mem_escapeByte isUnreserved_hexUpper hc,
        bytes_escapeByte, ih]

/-- A text is read back from its coded form. -/
theorem readField?_formField (s : String) : readField? (formField s.toList) = some s := by
  rw [readField?, bytes_formField]
  exact Utf8.decode?_encode s

/-- Bytes are read back as the text that they encode. -/
theorem readField?_formBytes (bs : Bytes) : readField? (formBytes bs) = Utf8.decode? bs := by
  rw [readField?, bytes_formBytes]

/-- An unreserved character or a percent sign can stand in a query. -/
theorem isFormChar_of {c : Char} (h : isUnreserved c = true ∨ c = '%') : isFormChar c = true := by
  rcases h with h | rfl
  · simp [isFormChar, h]
  · rfl

/-- A coded character consists of what can stand in a query. -/
theorem isFormChar_of_mem_formChar {c d : Char} (h : d ∈ formChar c) : isFormChar d = true := by
  unfold formChar at h
  split at h
  · obtain rfl := List.mem_singleton.mp h
    rfl
  · exact isFormChar_of (mem_escapeChar isUnreserved_hexUpper h)

/-- So does a coded text. -/
theorem isFormChar_of_mem_formField {cs : List Char} {c : Char} (h : c ∈ formField cs) :
    isFormChar c = true := by
  obtain ⟨d, -, hd⟩ := List.mem_flatMap.mp h
  exact isFormChar_of_mem_formChar hd

/-- So do coded bytes. -/
theorem isFormChar_of_mem_formBytes {bs : Bytes} {c : Char} (h : c ∈ formBytes bs) :
    isFormChar c = true := by
  obtain ⟨b, -, hb⟩ := List.mem_flatMap.mp h
  split at hb
  · exact isFormChar_of_mem_formChar hb
  · exact isFormChar_of (mem_escapeByte isUnreserved_hexUpper hb)

/-- What cannot stand in a query is not there. -/
theorem notMem_of_isFormChar {cs : List Char} (h : ∀ c ∈ cs, isFormChar c = true) {mark : Char}
    (hmark : isFormChar mark = false) : mark ∉ cs := by
  intro hm
  rw [h mark hm] at hmark
  cases hmark

private theorem readPair?_of {name value : List Char} (hchars : ∀ c ∈ name, isFormChar c = true)
    {n v : String} (hn : readField? name = some n) (hv : readField? value = some v) :
    readPair? (name ++ '=' :: value) = some (n, v) := by
  have hcut : Text.cut '=' (name ++ '=' :: value) = (name, some value) :=
    Text.cut_eq_some_iff.mpr ⟨rfl, notMem_of_isFormChar hchars (by decide)⟩
  rw [readPair?, hcut]
  simp only [hn, hv, Option.bind_some, Option.map_some]

/-- A query is cut at its ampersands into its pairs. -/
theorem splitAt_joinPairs {pairs : List (List Char × List Char)} (hne : pairs ≠ [])
    (hchars : ∀ p ∈ pairs, (∀ c ∈ p.1, isFormChar c = true) ∧ ∀ c ∈ p.2, isFormChar c = true) :
    Text.splitAt '&' (joinPairs pairs).toList = pairs.map fun p => p.1 ++ '=' :: p.2 := by
  obtain ⟨first, rest, rfl⟩ := List.exists_cons_of_ne_nil hne
  have hmap : (String.toList ∘ fun p : List Char × List Char =>
      String.ofList (p.1 ++ '=' :: p.2)) = fun p => p.1 ++ '=' :: p.2 := by
    funext p
    exact String.toList_ofList
  rw [joinPairs, String.toList_intercalate, List.map_map, hmap, List.map_cons]
  refine Text.splitAt_intercalate fun piece hpiece => ?_
  rw [← List.map_cons (f := fun p : List Char × List Char => p.1 ++ '=' :: p.2)] at hpiece
  obtain ⟨p, hp, rfl⟩ := List.mem_map.mp hpiece
  obtain ⟨hname, hvalue⟩ := hchars p hp
  rw [List.mem_append, List.mem_cons, not_or, not_or]
  exact ⟨notMem_of_isFormChar hname (by decide), by decide,
    notMem_of_isFormChar hvalue (by decide)⟩

/-- Only ampersands and equals signs stand in a query beside the coded names and values. -/
theorem mem_joinPairs {pairs : List (List Char × List Char)} (hne : pairs ≠ [])
    (hchars : ∀ p ∈ pairs, (∀ c ∈ p.1, isFormChar c = true) ∧ ∀ c ∈ p.2, isFormChar c = true)
    {c : Char} (h : c ∈ (joinPairs pairs).toList) : isFormChar c = true ∨ c = '&' ∨ c = '=' := by
  by_cases hmark : c = '&'
  · exact .inr (.inl hmark)
  · have hpiece : c ∈ (Text.splitAt '&' (joinPairs pairs).toList).flatten := by
      rw [Text.flatten_splitAt]
      exact List.mem_filter.mpr ⟨h, decide_eq_true hmark⟩
    rw [splitAt_joinPairs hne hchars] at hpiece
    obtain ⟨piece, hmem, hc⟩ := List.mem_flatten.mp hpiece
    obtain ⟨p, hp, rfl⟩ := List.mem_map.mp hmem
    obtain ⟨hname, hvalue⟩ := hchars p hp
    rcases List.mem_append.mp hc with hc | hc
    · exact .inl (hname c hc)
    · rcases List.mem_cons.mp hc with rfl | hc
      · exact .inr (.inr rfl)
      · exact .inl (hvalue c hc)

/-- Coded pairs are read back from the query that they make. -/
theorem readPairs?_joinPairs {pairs : List (List Char × List Char)} (hne : pairs ≠ [])
    (hchars : ∀ p ∈ pairs, (∀ c ∈ p.1, isFormChar c = true) ∧ ∀ c ∈ p.2, isFormChar c = true)
    {texts : List (String × String)}
    (hread : List.Forall₂ (fun p t => readField? p.1 = some t.1 ∧ readField? p.2 = some t.2) pairs
      texts) :
    readPairs? (joinPairs pairs).toList = some texts := by
  rw [readPairs?, splitAt_joinPairs hne hchars]
  clear hne
  induction hread with
  | nil => rfl
  | @cons p t pairs texts ht _ ih =>
    obtain ⟨hfirst, hrest⟩ := List.forall_mem_cons.mp hchars
    rw [List.map_cons, List.mapM_cons, ih hrest, readPair?_of hfirst.1 ht.1 ht.2]
    rfl

end RestContract.Percent

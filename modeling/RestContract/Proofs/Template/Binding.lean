import RestContract.Proofs.Template.Filling
import RestContract.Proofs.Percent

/-!
# Names and the texts bound to them

A match has one text for every hole. Binding stores the texts under the names of the
holes, so exactly the names of the template are bound, and a name that stands several
times is bound as often to what stands in its last hole. Where all holes of a name hold
the same coded text, that text is what the name is bound to.
-/

namespace RestContract.Template

/-- A match finds one text for each hole. -/
theorem length_of_fill? {ps : List Piece} {cs : List Char} {texts : List (List Char)}
    (h : fill? ps cs = some texts) : texts.length = (holes ps).length := by
  induction ps generalizing cs texts with
  | nil =>
    rw [fill?] at h
    split at h
    · rw [← Option.some.inj h]
      rfl
    · cases h
  | cons p ps ih =>
    cases p with
    | char c =>
      cases cs with
      | nil => cases h
      | cons d cs =>
        rw [fill?] at h
        split at h
        · exact ih h
        · cases h
    | hole name =>
      rw [fill?] at h
      obtain ⟨cut, -, hcut⟩ := List.exists_of_findSome?_eq_some h
      obtain ⟨others, ho, rfl⟩ := Option.map_eq_some_iff.mp hcut
      rw [List.length_cons, ih ho]
      rfl

/-- Storing one text after the other leaves the names there that were there or are stored. -/
theorem isSome_lookup_foldl_storeName (f : List Char → String) (pairs : List (String × List Char))
    (start : List (String × String)) (name : String) :
    ((pairs.foldl (fun acc p => storeName p.1 (f p.2) acc) start).lookup name).isSome = true ↔
      name ∈ pairs.map (·.1) ∨ (start.lookup name).isSome = true := by
  induction pairs generalizing start with
  | nil => simp
  | cons p pairs ih =>
    rw [List.foldl_cons, ih, lookup_storeName, List.map_cons, List.mem_cons]
    by_cases h : name = p.1
    · simp [h]
    · simp [h]

/-- Storing what depends on the name only leaves that under every stored name. -/
theorem lookup_foldl_storeName (f : String → String) (names : List String)
    (start : List (String × String)) (name : String) :
    (names.foldl (fun acc n => storeName n (f n) acc) start).lookup name =
      if name ∈ names then some (f name) else start.lookup name := by
  induction names generalizing start with
  | nil => simp
  | cons n names ih =>
    rw [List.foldl_cons, ih, lookup_storeName]
    by_cases h : name = n
    · simp [h]
    · simp [h]

/-- With a text for each name exactly the names are bound. -/
theorem isSome_lookup_bind {names : List String} {texts : List (List Char)}
    (h : texts.length = names.length) (name : String) :
    ((bind names texts).lookup name).isSome = true ↔ name ∈ names := by
  have hfst : (names.zip texts).map (·.1) = names := List.map_fst_zip (Nat.le_of_eq h.symm)
  rw [bind, isSome_lookup_foldl_storeName (fun text => String.ofList (Percent.unescape text)), hfst]
  simp

/-- A name is bound to the text that stands coded in all of its holes. -/
theorem lookup_bind_map (names : List String) (coded : String → List Char) (name : String) :
    (bind names (names.map coded)).lookup name =
      if name ∈ names then some (String.ofList (Percent.unescape (coded name))) else none := by
  have hzip : names.zip (names.map coded) = names.map fun n => (n, coded n) :=
    List.map_prod_left_eq_zip.symm
  rw [bind, hzip, List.foldl_map]
  exact lookup_foldl_storeName (fun n => String.ofList (Percent.unescape (coded n))) names [] name

end RestContract.Template

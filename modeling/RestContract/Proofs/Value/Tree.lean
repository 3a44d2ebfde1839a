import RestContract.Document.Layout

/-!
# Document values

The value of a document is a tree of absent values, truth values, numbers, texts, dates, lists and
maps, where the keys of maps can be keys. Such a value has a text unless a whole number in it has
too many digits. So a message about a part of a document can be said unless the document holds such
a number.
-/

namespace RestContract.Value

mutual

/-- A tree of absent values, truth values, numbers, texts, dates, lists and maps. -/
def IsTree : Value → Prop
  | .null | .bool _ | .int _ | .float _ | .text _ | .date _ | .moment _ => True
  | .list items => AreTrees items
  | .map entries => AreEntries entries
  | _ => False

/-- Values that are such trees. -/
def AreTrees : List Value → Prop
  | [] => True
  | v :: vs => IsTree v ∧ AreTrees vs

/-- Entries whose keys can be keys and are such trees, as are their values. -/
def AreEntries : List (Value × Value) → Prop
  | [] => True
  | (k, v) :: es => (k.isKey = true ∧ IsTree k) ∧ IsTree v ∧ AreEntries es

end

/-- The parts of a tree are at hand. -/
theorem IsTree.opened {v : Value} (h : v.IsTree) : v.opened = v := by
  cases v with
  | shared label content => cases h
  | _ => rfl

/-- A whole number has a text unless it has too many digits. -/
private theorem unquoted?_int {n : Int} {u : Unshown} (h : (Value.int n).unquoted? = some u) :
    u = .digits := by
  rw [Value.unquoted?] at h
  generalize Number.isWritable n = writable at h
  cases writable with
  | true => cases h
  | false => exact (Option.some.inj h).symm

mutual

/-- A tree without a text holds a number with too many digits. -/
theorem IsTree.unquoted? {v : Value} (h : v.IsTree) {u : Unshown} (hu : v.unquoted? = some u) :
    u = .digits := by
  cases v with
  | int n => exact unquoted?_int hu
  | list items =>
    rw [IsTree] at h
    rw [Value.unquoted?] at hu
    exact AreTrees.unquotedItems? h hu
  | map entries =>
    rw [IsTree] at h
    rw [Value.unquoted?] at hu
    exact AreEntries.unquotedEntries? h hu
  | _ => first | cases hu | cases h

/-- So does a list of which an item has none. -/
theorem AreTrees.unquotedItems? {vs : List Value} (h : AreTrees vs) {u : Unshown}
    (hu : Value.unquotedItems? vs = some u) : u = .digits := by
  cases vs with
  | nil => cases hu
  | cons v vs =>
    rw [Value.unquotedItems?, Option.or_eq_some_iff] at hu
    rcases hu with hu | ⟨-, hu⟩
    · exact IsTree.unquoted? h.1 hu
    · exact AreTrees.unquotedItems? h.2 hu

/-- So does a map of which an entry has none. -/
theorem AreEntries.unquotedEntries? {es : List (Value × Value)} (h : AreEntries es) {u : Unshown}
    (hu : Value.unquotedEntries? es = some u) : u = .digits := by
  match es with
  | [] => cases hu
  | (k, v) :: es =>
    rw [Value.unquotedEntries?, Option.or_eq_some_iff, Option.or_eq_some_iff] at hu
    rcases hu with (hu | ⟨-, hu⟩) | ⟨-, hu⟩
    · exact IsTree.unquoted? h.1.2 hu
    · exact IsTree.unquoted? h.2.1 hu
    · exact AreEntries.unquotedEntries? h.2.2 hu

end

/-- A tree can be shown in whatever way when it can be shown in messages. -/
theorem IsTree.shown {v : Value} (h : v.IsTree) :
    v.uninserted? = v.unquoted? ∧ v.unplain? = v.unquoted? := by
  cases v with
  | member m => cases h
  | _ => exact ⟨rfl, rfl⟩

/-! ## Parts of a document -/

/-- A value is a part of a document: a tree that has a text if the document has one. -/
structure PartOf (doc v : Value) : Prop where
  /-- It is a tree. -/
  tree : v.IsTree
  /-- It has a text if the document has one. -/
  shown : doc.unquoted? = none → v.unquoted? = none

/-- What keeps a message about a document from being said: a number in it with too many digits. -/
def Unsayable (doc : Value) (u : Unshown) : Prop := u = .digits ∧ doc.unquoted? ≠ none

namespace PartOf

variable {doc v : Value}

/-- A tree is a part of itself. -/
theorem refl (h : doc.IsTree) : PartOf doc doc := ⟨h, id⟩

/-- A text can stand in for a part of any document. -/
theorem text (s : String) : PartOf doc (.text s) := ⟨by simp [IsTree], fun _ => rfl⟩

/-- Only a number with too many digits keeps a part from being shown. -/
theorem unquoted? (h : PartOf doc v) {u : Unshown} (hu : v.unquoted? = some u) :
    Unsayable doc u := by
  refine ⟨h.tree.unquoted? hu, fun hdoc => ?_⟩
  rw [h.shown hdoc] at hu
  cases hu

/-- So it is inside a longer text. -/
theorem uninserted? (h : PartOf doc v) {u : Unshown} (hu : v.uninserted? = some u) :
    Unsayable doc u := h.unquoted? (h.tree.shown.1 ▸ hu)

/-- So it is on its own. -/
theorem unplain? (h : PartOf doc v) {u : Unshown} (hu : v.unplain? = some u) :
    Unsayable doc u := h.unquoted? (h.tree.shown.2 ▸ hu)

/-- The keys and the values of a map are parts, and the keys can be keys. -/
theorem of_map {entries : List (Value × Value)} (h : PartOf doc (.map entries)) {e : Value × Value}
    (he : e ∈ entries) : PartOf doc e.1 ∧ e.1.isKey = true ∧ PartOf doc e.2 := by
  obtain ⟨htree, hshown⟩ := h
  rw [IsTree] at htree
  simp only [Value.unquoted?] at hshown
  induction entries with
  | nil => cases he
  | cons d rest ih =>
    obtain ⟨⟨hkey, hk⟩, hv, hrest⟩ := htree
    simp only [unquotedEntries?, Option.or_eq_none_iff] at hshown
    rcases List.mem_cons.mp he with rfl | he
    · exact ⟨⟨hk, fun hdoc => (hshown hdoc).1.1⟩, hkey, ⟨hv, fun hdoc => (hshown hdoc).1.2⟩⟩
    · exact ih he hrest fun hdoc => (hshown hdoc).2

/-- A part is the same when it is opened. -/
theorem of_opened (h : PartOf doc v) {w : Value} (hw : v.opened = w) : PartOf doc w := by
  rwa [← hw, h.tree.opened]

/-- What stands under a name is a part. -/
theorem of_under? {entries : List (Value × Value)} (h : PartOf doc (.map entries)) {name : String}
    {w : Value} (hw : Document.under? name entries = some w) : PartOf doc w := by
  obtain ⟨e, he, rfl⟩ := Option.map_eq_some_iff.mp hw
  exact (h.of_map (List.mem_of_find?_eq_some he)).2.2

end PartOf

end RestContract.Value

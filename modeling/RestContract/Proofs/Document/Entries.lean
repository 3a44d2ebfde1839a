import Mathlib
import RestContract.Document.Layout
import RestContract.Proofs.Endpoint.Membership

/-!
# The entries behind a document

An accepted document was read entry by entry: each group from an entry of the groups, with its
endpoints from the entries inside, and each endpoint outside every group from an entry of its own.
Groups and endpoints are named by the keys of their entries. A key stands in a map once; a list or
a map that stands inside itself is no exception, since putting it back changes no key.
-/

namespace RestContract

/-! ## Maps of which each key is another one -/

namespace Value

mutual

/-- In all maps of a value each text is the key of one entry at most. -/
def TextsApart : Value → Prop
  | .list items => TextsApartItems items
  | .pair a b => TextsApart a ∧ TextsApart b
  | .map entries => (entries.filterMap (·.1.asText?)).Nodup ∧ TextsApartEntries entries
  | .shared _ content => TextsApart content
  | _ => True

/-- So it is in each of some values. -/
def TextsApartItems : List Value → Prop
  | [] => True
  | v :: vs => TextsApart v ∧ TextsApartItems vs

/-- So it is in the value of each of some entries. -/
def TextsApartEntries : List (Value × Value) → Prop
  | [] => True
  | (_, v) :: es => TextsApart v ∧ TextsApartEntries es

end

private theorem map_fst_restoreEntries (label : Nat) (whole : Value)
    (entries : List (Value × Value)) :
    (restoreEntries label whole entries).map (·.1) = entries.map (·.1) := by
  induction entries with
  | nil => rfl
  | cons e rest ih => rw [restoreEntries, List.map_cons, List.map_cons, ih]

mutual

/-- Putting a container back keeps keys apart. -/
theorem textsApart_restore {label : Nat} {whole : Value} (hw : whole.TextsApart) :
    ∀ v : Value, v.TextsApart → (restore label whole v).TextsApart
  | .list items, h => by
    rw [TextsApart] at h
    rw [restore, TextsApart]
    exact textsApart_restoreItems hw items h
  | .pair a b, h => by
    rw [TextsApart] at h
    rw [restore, TextsApart]
    exact ⟨textsApart_restore hw a h.1, textsApart_restore hw b h.2⟩
  | .map entries, h => by
    rw [TextsApart] at h
    have hkeys : ∀ es : List (Value × Value),
        es.filterMap (·.1.asText?) = (es.map (·.1)).filterMap asText? := fun es => by
      rw [List.filterMap_map]
      rfl
    rw [restore, TextsApart, hkeys, map_fst_restoreEntries, ← hkeys]
    exact ⟨h.1, textsApart_restoreEntries hw entries h.2⟩
  | .shared l content, h => by
    rw [restore]
    split
    · exact h
    · rw [TextsApart] at h ⊢
      exact textsApart_restore hw content h
  | .again l isMap, h => by
    rw [restore]
    split
    · exact hw
    · exact h
  | .null, h | .bool _, h | .int _, h | .float _, h | .text _, h | .bytes _, h | .date _, h
  | .moment _, h | .member _, h | .set _, h | .record _ _, h | .foreign _, h => h

/-- So it does in each of some values. -/
theorem textsApart_restoreItems {label : Nat} {whole : Value} (hw : whole.TextsApart) :
    ∀ vs : List Value, TextsApartItems vs → TextsApartItems (restoreItems label whole vs)
  | [], h => h
  | v :: vs, h => ⟨textsApart_restore hw v h.1, textsApart_restoreItems hw vs h.2⟩

/-- So it does in the value of each of some entries. -/
theorem textsApart_restoreEntries {label : Nat} {whole : Value} (hw : whole.TextsApart) :
    ∀ es : List (Value × Value), TextsApartEntries es →
      TextsApartEntries (restoreEntries label whole es)
  | [], h => h
  | (_, v) :: es, h => ⟨textsApart_restore hw v h.1, textsApart_restoreEntries hw es h.2⟩

end

/-- The parts of a value with keys apart have keys apart. -/
theorem TextsApart.opened {v : Value} (h : v.TextsApart) : v.opened.TextsApart := by
  unfold Value.opened
  split
  next label content => exact textsApart_restore h content h
  next => exact h

private theorem TextsApartEntries.of_mem {entries : List (Value × Value)}
    (h : TextsApartEntries entries) {e : Value × Value} (he : e ∈ entries) : e.2.TextsApart := by
  induction entries with
  | nil => cases he
  | cons d rest ih =>
    rcases List.mem_cons.mp he with rfl | he
    · exact h.1
    · exact ih h.2 he

end Value

/-! ## What was read from them -/

namespace Document

/-- What stands in a section is what stands under its name, or nothing. -/
theorem section?_eq_ok {name : String} {entries inner : Values}
    (h : section? name entries = .ok inner) :
    inner = [] ∨ ∃ v, under? name entries = some v ∧ v.opened = .map inner := by
  unfold section? at h
  cases hv : under? name entries with
  | none =>
    rw [hv] at h
    exact Or.inl (Except.ok.inj h).symm
  | some v =>
    rw [hv, Option.getD_some] at h
    cases hopened : v.opened with
    | map found =>
      rw [hopened] at h
      exact Or.inr ⟨v, rfl, by rw [hopened, Except.ok.inj h]⟩
    | _ =>
      rw [hopened] at h
      dsimp only at h
      split at h
      · cases h
      · exact Or.inl (Except.ok.inj h).symm

/-- In a section of entries with keys apart each text is the key of one entry at most. -/
theorem nodup_section? {name : String} {entries inner : Values}
    (hapart : Value.TextsApartEntries entries) (h : section? name entries = .ok inner) :
    (inner.filterMap (·.1.asText?)).Nodup := by
  rcases section?_eq_ok h with rfl | ⟨v, hv, hopened⟩
  · exact List.nodup_nil
  · obtain ⟨e, he, rfl⟩ := Option.map_eq_some_iff.mp hv
    have hinner := (hapart.of_mem (List.mem_of_find?_eq_some he)).opened
    rw [hopened, Value.TextsApart] at hinner
    exact hinner.1

/-- An endpoint was read from an entry for a group or for none. -/
def EndpointFrom (group : Option GroupHeader) (entry : Value × Value) (e : EndpointSchema) : Prop :=
  ∃ d, endpointOf entry.1 entry.2 = .ok d ∧ d.extract group = .ok e

/-- A group was read from an entry. -/
def GroupFrom (entry : Value × Value) (g : GroupSchema) : Prop :=
  ∃ d key, groupOf entry.1 entry.2 = .ok d ∧ d.extract key = .ok g

/-- The declaration of an entry is named by its key. -/
theorem name_of_endpointOf {name endpoint : Value} {d : EndpointDeclaration}
    (h : endpointOf name endpoint = .ok d) : d.name = name := by
  unfold endpointOf at h
  split at h
  · split at h
    · cases h
    · obtain ⟨_, -, h⟩ := Outcome.bind_eq_ok.mp h
      obtain ⟨_, -, h⟩ := Outcome.bind_eq_ok.mp h
      rw [← Except.ok.inj h]
  · cases h

/-- The declaration of a group: its name is the key, and its endpoints are declared in the entries
inside. -/
theorem groupOf_eq_ok {name group : Value} {d : GroupDeclaration} (h : groupOf name group = .ok d) :
    ∃ fields inner, group.opened = .map fields ∧ section? "endpoints" fields = .ok inner ∧
      List.Forall₂ (fun e d => endpointOf e.1 e.2 = .ok d) inner d.endpoints ∧ d.name = name ∧
      d.auth = (under? "auth" fields).getD (.text "required") := by
  unfold groupOf at h
  cases hfields : group.opened with
  | map fields =>
    rw [hfields] at h
    obtain ⟨inner, hinner, h⟩ := Outcome.bind_eq_ok.mp h
    obtain ⟨endpoints, hendpoints, h⟩ := Outcome.bind_eq_ok.mp h
    obtain rfl := Except.ok.inj h
    exact ⟨fields, inner, rfl, hinner, Outcome.forall₂_of_mapM hendpoints, rfl, rfl⟩
  | _ =>
    rw [hfields] at h
    cases h

/-- The groups of a document were read from the entries, in their order. -/
theorem groupsFrom_eq_ok {entries : Values} {key : Nat} {groups : List GroupSchema}
    (h : groupsFrom key entries = .ok groups) : List.Forall₂ GroupFrom entries groups := by
  induction entries generalizing key groups with
  | nil =>
    obtain rfl := Except.ok.inj h
    exact .nil
  | cons entry rest ih =>
    obtain ⟨d, hd, h⟩ := Outcome.bind_eq_ok.mp h
    obtain ⟨g, hg, h⟩ := Outcome.bind_eq_ok.mp h
    obtain ⟨others, hothers, h⟩ := Outcome.bind_eq_ok.mp h
    obtain rfl := Except.ok.inj h
    exact .cons ⟨d, key, hd, hg⟩ (ih hothers)

/-- Where the groups and the endpoints of a document were read from. -/
theorem ofValue_eq_ok {v : Value} {d : Document} (h : ofValue v = .ok d) :
    ∃ entries groups endpoints, v.opened = .map entries ∧
      (section? "groups" entries = .ok groups ∧ section? "endpoints" entries = .ok endpoints) ∧
      List.Forall₂ GroupFrom groups d.groups ∧
      List.Forall₂ (EndpointFrom none) endpoints d.endpoints := by
  unfold ofValue at h
  cases hentries : v.opened with
  | map entries =>
    rw [hentries] at h
    obtain ⟨groupEntries, hgroups, h⟩ := Outcome.bind_eq_ok.mp h
    obtain ⟨groups, hread, h⟩ := Outcome.bind_eq_ok.mp h
    obtain ⟨endpointEntries, hendpoints, h⟩ := Outcome.bind_eq_ok.mp h
    obtain ⟨endpoints, hall, h⟩ := Outcome.bind_eq_ok.mp h
    obtain rfl := Except.ok.inj h
    refine ⟨entries, groupEntries, endpointEntries, rfl, ⟨hgroups, hendpoints⟩,
      groupsFrom_eq_ok hread, ?_⟩
    exact (Outcome.forall₂_of_mapM hall).imp fun _ _ he => Outcome.bind_eq_ok.mp he
  | _ =>
    rw [hentries] at h
    cases h

/-- An endpoint has the name of its entry, and the group that it was read for. -/
theorem EndpointFrom.name {group : Option GroupHeader} {entry : Value × Value} {e : EndpointSchema}
    (h : EndpointFrom group entry e) : e.name = entry.1 ∧ e.group = group := by
  obtain ⟨d, hd, he⟩ := h
  exact ⟨(EndpointDeclaration.name_of_extract he).trans (name_of_endpointOf hd),
    EndpointDeclaration.group_of_extract he⟩

/-- A group has the name of its entry, and its members were made for it and are apart. -/
theorem GroupFrom.sound {entry : Value × Value} {g : GroupSchema} (h : GroupFrom entry g) :
    g.header.name = entry.1 ∧ g.Sound := by
  obtain ⟨d, key, hd, hg⟩ := h
  obtain ⟨-, -, -, -, -, hname, -⟩ := groupOf_eq_ok hd
  obtain ⟨hsound, hheader, -⟩ := GroupDeclaration.extract_eq_ok hg
  exact ⟨hheader.trans hname, hsound⟩

/-- The members of a group of a document were made for it and are apart. -/
theorem sound_of_mem {v : Value} {d : Document} (h : ofValue v = .ok d) {g : GroupSchema}
    (hg : g ∈ d.groups) : g.Sound := by
  obtain ⟨_, _, _, -, -, hgroups, -⟩ := ofValue_eq_ok h
  obtain ⟨entry, -, hentry⟩ := exists_mem_of_forall₂ hgroups hg
  exact hentry.sound.2

/-- An endpoint outside every group of a document has none. -/
theorem group_of_mem {v : Value} {d : Document} (h : ofValue v = .ok d) {e : EndpointSchema}
    (he : e ∈ d.endpoints) : e.group = none := by
  obtain ⟨_, _, _, -, -, -, hendpoints⟩ := ofValue_eq_ok h
  obtain ⟨entry, -, hentry⟩ := exists_mem_of_forall₂ hendpoints he
  exact hentry.name.2

end Document

end RestContract

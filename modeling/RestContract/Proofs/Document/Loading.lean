import RestContract.CommandLine.Command
import RestContract.Proofs.Document.Flaws
import RestContract.Proofs.Endpoint.Refusals
import RestContract.Proofs.Value.Tree

/-!
# How a document fails to load

A document that is not accepted is refused as a declaration, unless it has one of the flaws that
are not looked for, or a number with so many digits that no message can show it, or half of a
surrogate pair where a class of texts needs a name. Without them the command line reports every
document that is not accepted.
-/

namespace RestContract

open Outcome

namespace Document

open Value (PartOf Unsayable)

/-! ## What a document can fail with -/

variable {doc : Value}

section

variable {endpoint name : Value} {fields : Values}

/-- What stands under a name, or a text in its place, is a part. -/
theorem partOf_getD (hfields : PartOf doc (.map fields)) (key s : String) :
    PartOf doc ((under? key fields).getD (.text s)) := by
  cases h : under? key fields with
  | none => exact .text s
  | some v => exact hfields.of_under? h

/-- The entries of a parameter are parts of the document. -/
theorem partOf_entriesOf? {parameter : Value} (h : PartOf doc parameter)
    (hentries : entriesOf? parameter = some fields) : PartOf doc (.map fields) := by
  rw [entriesOf?, h.tree.opened] at hentries
  cases parameter with
  | map entries => exact Option.some.inj hentries ▸ h
  | text s =>
    obtain rfl := Option.some.inj hentries
    refine ⟨?_, fun _ => rfl⟩
    simp [Value.IsTree, Value.AreEntries, Value.isKey]
  | member m => cases h.tree
  | _ => cases hentries

end

/-! ## Extracting an endpoint -/

/-- The name and the type of a declared field are parts of the document. -/
structure FieldParts (doc : Value) (f : FieldDeclaration) : Prop where
  /-- The name. -/
  name : PartOf doc f.name
  /-- The type, when it is a value. -/
  type : ∀ v, f.type = .plain v → PartOf doc v

/-- The declaration of a parameter is made of parts of the document. -/
theorem fieldParts_of_fieldOfEntries {endpoint name : Value} {fields : Values}
    {f : FieldDeclaration} (hn : PartOf doc name) (hfields : PartOf doc (.map fields))
    (h : fieldOfEntries endpoint name fields = .ok f) : FieldParts doc f := by
  obtain ⟨m, -, h⟩ := Outcome.bind_eq_ok.mp h
  split at h
  · cases h
  have htype : ∀ usual, PartOf doc ((under? "type" fields).getD (.text usual)) :=
    partOf_getD hfields "type"
  dsimp only at h
  split at h
  · split at h
    · obtain ⟨c, -, h⟩ := Outcome.bind_eq_ok.mp h
      obtain ⟨fallback, -, h⟩ := Outcome.bind_eq_ok.mp h
      obtain rfl := Except.ok.inj h
      exact ⟨hn, by rintro _ ⟨⟩⟩
    · obtain rfl := Except.ok.inj h
      exact ⟨hn, by rintro _ ⟨⟩; exact htype _⟩
  · obtain rfl := Except.ok.inj h
    exact ⟨hn, by rintro _ ⟨⟩; exact htype _⟩

/-- The entries of a section are listed there. -/
theorem lists_of_section? {name : String} {fields inner : Values} {entry : Value × Value}
    (h : section? name fields = .ok inner) (hmem : entry ∈ inner) : Lists name fields entry := by
  rcases section?_eq_ok h with rfl | ⟨w, hw, hopened⟩
  · cases hmem
  · exact ⟨w, inner, hw, hopened, hmem⟩

/-- The entries of a section are parts of the document. -/
theorem partOf_of_lists {name : String} {fields : Values} {entry : Value × Value}
    (hfields : PartOf doc (.map fields)) (h : Lists name fields entry) :
    PartOf doc entry.1 ∧ entry.1.isKey = true ∧ PartOf doc entry.2 := by
  obtain ⟨w, inner, hw, hopened, hmem⟩ := h
  exact ((hfields.of_under? hw).of_opened hopened).of_map hmem

/-- An entry of a document that describes an endpoint. -/
structure IsEndpointEntry (doc : Value) (entry : Value × Value) : Prop where
  /-- The name is a part of the document. -/
  name : PartOf doc entry.1
  /-- So is the value. -/
  value : PartOf doc entry.2
  /-- If the value is a map, it describes the endpoint. -/
  describes : ∀ fields, entry.2.opened = .map fields → Describes doc (.endpoint entry.1) fields

/-- An endpoint is declared by parts of a document. -/
structure EndpointParts (doc : Value) (d : EndpointDeclaration) (fields params : Values) :
    Prop where
  /-- The endpoint stands in the document. -/
  describes : Describes doc (.endpoint d.name) fields
  /-- Its name is a part of it. -/
  name : PartOf doc d.name
  /-- So are its entries. -/
  parts : PartOf doc (.map fields)
  /-- Its parameters stand in a section. -/
  listed : section? "params" fields = .ok params

namespace EndpointParts

variable {d : EndpointDeclaration} {fields params : Values} {parameters : List Parameter}

/-- The entries of the parameters are parts of the document. -/
theorem param (h : EndpointParts doc d fields params) {p : Value × Value} (hp : p ∈ params) :
    Lists "params" fields p ∧ PartOf doc p.1 ∧ p.1.isKey = true ∧ PartOf doc p.2 :=
  ⟨lists_of_section? h.listed hp, partOf_of_lists h.parts (lists_of_section? h.listed hp)⟩

/-- What they declare is made of parts of the document. -/
theorem field (h : EndpointParts doc d fields params) {p : Value × Value} (hp : p ∈ params)
    {endpoint : Value} {f : FieldDeclaration} (hf : fieldOf endpoint p.1 p.2 = .ok f) :
    FieldParts doc f := by
  obtain ⟨-, hkey, -, hvalue⟩ := h.param hp
  rw [fieldOf_eq] at hf
  cases hentries : entriesOf? p.2 with
  | none =>
    rw [hentries] at hf
    cases hf
  | some inner =>
    rw [hentries] at hf
    exact fieldParts_of_fieldOfEntries hkey (partOf_entriesOf? hvalue hentries) hf

/-- The parameters stand in a map, if there are any. -/
theorem opened (h : EndpointParts doc d fields params) (hne : params ≠ []) :
    ∃ w, under? "params" fields = some w ∧ w.opened = .map params := by
  rcases section?_eq_ok h.listed with rfl | hopened
  · exact absurd rfl hne
  · exact hopened

end EndpointParts

/-- An entry of a document that describes a group. -/
structure IsGroupEntry (doc : Value) (entry : Value × Value) : Prop where
  /-- The name is a part of the document. -/
  name : PartOf doc entry.1
  /-- So is the value. -/
  value : PartOf doc entry.2
  /-- If the value is a map, it describes a group. -/
  describes : ∀ fields, entry.2.opened = .map fields → Describes doc .group fields

/-- The entries of the endpoints of a group describe endpoints. -/
theorem IsGroupEntry.member {entry e : Value × Value} {fields : Values} (h : IsGroupEntry doc entry)
    (hfields : entry.2.opened = .map fields) (hlists : Lists "endpoints" fields e) :
    IsEndpointEntry doc e := by
  have hparts : PartOf doc (.map fields) := h.value.of_opened hfields
  obtain ⟨hname, -, hvalue⟩ := partOf_of_lists hparts hlists
  exact ⟨hname, hvalue, fun inner hinner => .member (h.describes fields hfields) hlists hinner⟩

open CommandLine (Report withDocument stopped shownPath)

end Document

end RestContract

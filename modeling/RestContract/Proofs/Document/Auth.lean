import Mathlib
import RestContract.Proofs.Document.Entries
import RestContract.Proofs.Value.Shown

/-!
# Which endpoints of a document are open

The entry of a group says whether callers of its endpoints have to be known. They have to
unless the entry is a text that is `none` in some case, or stands there without a value, or is
itself the requirement that leaves them unknown; an entry that is left out requires it, and so
does an endpoint outside every group.
-/

namespace RestContract

/-- A value stands for groups that are open: a text that is `none` in some case, the absent value,
or the requirement that leaves callers unknown. -/
def Auth.Opens (v : Value) : Prop :=
  (∃ s, v = .text s ∧ Text.lower s = "none") ∨ v.isNullIn [] = true ∨
    v.requirement? = some .anonymous

private theorem Auth.ofName?_eq_anonymous {s : String} :
    Auth.ofName? s = some .anonymous ↔ s = "none" := by
  unfold Auth.ofName?
  split
  · next h => simp [h]
  · split <;> simp_all

private theorem Value.unplain?_of_opens {v : Value}
    (h : (∃ s, v = .text s ∧ Text.lower s = "none") ∨ v.isNullIn [] = true) :
    v.unplain? = none := by
  rcases h with ⟨s, rfl, -⟩ | hnull
  · simp [unplain?, unquoted?]
  · have hquoted := unquoted?_of_isNullIn v [] hnull
    cases v with
    | member m => cases hnull
    | _ => simpa [unplain?] using hquoted

private theorem Auth.ofValue_of_requirement?_eq_none {v : Value} (h : v.requirement? = none) :
    Auth.ofValue v = .ok .anonymous ↔ Text.lower v.plain = "none" := by
  rw [Auth.ofValue, h]
  constructor
  · intro hread
    obtain ⟨_, -, hread⟩ := Outcome.bind_eq_ok.mp hread
    split at hread
    · next a ha =>
      obtain rfl := Except.ok.inj hread
      exact ofName?_eq_anonymous.mp ha
    · cases hread
  · intro hlow
    simp only [Value.unplain?_of_opens (Value.lower_plain.mp hlow), ofName?_eq_anonymous.mpr hlow]
    rfl

/-- Exactly the values that stand for open groups are read so. -/
theorem Auth.ofValue_eq_anonymous {v : Value} : Auth.ofValue v = .ok .anonymous ↔ Auth.Opens v := by
  unfold Opens
  rw [← or_assoc, ← Value.lower_plain]
  cases hreq : v.requirement? with
  | none => simp [ofValue_of_requirement?_eq_none hreq]
  | some a =>
    have hread : Auth.ofValue v = .ok a := by rw [Auth.ofValue, hreq]
    have hsigned : Text.lower v.plain ≠ "none" := by
      cases v with
      | member m => exact fun hlow => by simpa [Value.isNullIn] using Value.lower_plain.mp hlow
      | _ => cases hreq
    rw [hread]
    simp [hsigned]

namespace Document

/-- A group was read from an entry: its endpoints belong to it, and they are open exactly when the
entry says so. -/
def GroupOf (entry : Value × Value) (g : GroupSchema) : Prop :=
  ∃ fields, entry.2.opened = .map fields ∧ ∀ e ∈ g.members, e.group = some g.header ∧
    (e.auth = .anonymous ↔ ∃ v, under? "auth" fields = some v ∧ Auth.Opens v)

/-- A group that was read from an entry is open exactly when the entry says so. -/
theorem GroupFrom.groupOf {entry : Value × Value} {g : GroupSchema} (h : GroupFrom entry g) :
    GroupOf entry g := by
  obtain ⟨d, key, hd, hg⟩ := h
  obtain ⟨fields, -, hfields, -, -, -, hentry⟩ := groupOf_eq_ok hd
  obtain ⟨hsound, -, -, hauth, -⟩ := GroupDeclaration.extract_eq_ok hg
  refine ⟨fields, hfields, fun e he => ⟨hsound.made e he, ?_⟩⟩
  have hopen : g.header.auth = .anonymous ↔
      Auth.Opens ((under? "auth" fields).getD (.text "required")) := by
    rw [← Auth.ofValue_eq_anonymous, ← hentry, hauth, Except.ok.injEq]
  rw [EndpointSchema.auth, hsound.made e he, Option.map_some, Option.getD_some, hopen]
  cases under? "auth" fields with
  | none =>
    refine iff_of_false ?_ (by simp)
    rintro (⟨s, hs, hlow⟩ | hnull | hopen)
    · obtain rfl := Value.text.inj hs
      revert hlow
      decide
    · cases hnull
    · cases hopen
  | some v => simp

/-- The endpoints of an accepted document are open exactly where the entry of their group is a text
that is `none` in some case, or stands there without a value, or is the requirement itself. -/
theorem auth_eq_anonymous_iff {v : Value} {d : Document} (h : ofValue v = .ok d) :
    ∃ entries groups, v.opened = .map entries ∧ section? "groups" entries = .ok groups ∧
      List.Forall₂ GroupOf groups d.groups ∧
      ∀ e ∈ d.endpoints, e.group = none ∧ e.auth = .required := by
  obtain ⟨entries, groups, _, hopened, ⟨hsection, -⟩, hgroups, -⟩ := ofValue_eq_ok h
  refine ⟨entries, groups, hopened, hsection, hgroups.imp fun _ _ hg => hg.groupOf, fun e he => ?_⟩
  have hgroup := group_of_mem h he
  exact ⟨hgroup, by rw [EndpointSchema.auth, hgroup]; rfl⟩

/-- The entries of a group of which `auth` has no value. -/
def purgeFields : Values :=
  [(.text "path", .text "/admin"), (.text "auth", .null),
    (.text "endpoints", .map [(.text "Purge",
      .map [(.text "method", .text "POST"), (.text "path", .text "/purge")])])]

/-- A document with this group. -/
def purgeDocument : Value :=
  .map [(.text "groups", .map [(.text "Admin", .map purgeFields)])]

/-- What the endpoints of this group have in common. -/
def purgeHeader : GroupHeader := ⟨0, .text "Admin", "/admin", .anonymous⟩

/-- The endpoint of this group. -/
def purgeSchema : EndpointSchema :=
  ⟨.text "Purge", .post, "/purge", [], .plain .null, some purgeHeader, false, none⟩

/-- The document with this group is accepted. -/
theorem ofValue_purgeDocument :
    ofValue purgeDocument = .ok ⟨[⟨purgeHeader, [purgeSchema]⟩], []⟩ := by cbv

/-- An endpoint is open where the entry of its group has no value. -/
theorem auth_purgeDocument :
    ofValue purgeDocument = .ok ⟨[⟨purgeHeader, [purgeSchema]⟩], []⟩ ∧
      ∃ entries groups,
        purgeDocument.opened = .map entries ∧ section? "groups" entries = .ok groups ∧
        List.Forall₂ GroupOf groups [⟨purgeHeader, [purgeSchema]⟩] ∧
        ∀ e ∈ ([] : List EndpointSchema), e.group = none ∧ e.auth = .required :=
  ⟨ofValue_purgeDocument, auth_eq_anonymous_iff ofValue_purgeDocument⟩

/-- No text has to open a group: an entry without a value does as well. -/
theorem not_text_of_anonymous :
    ¬∀ d, ofValue purgeDocument = .ok d → ∀ e ∈ d.allEndpoints, e.auth = .anonymous →
      ∃ s, under? "auth" purgeFields = some (.text s) ∧ Text.lower s = "none" := by
  intro h
  obtain ⟨s, hs, -⟩ := h _ ofValue_purgeDocument purgeSchema (by simp [allEndpoints]) rfl
  have hnull : under? "auth" purgeFields = some .null := by cbv
  rw [hnull] at hs
  cases hs

end Document

end RestContract

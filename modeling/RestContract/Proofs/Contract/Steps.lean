import Mathlib
import RestContract.Contract.Registry
import RestContract.Proofs.Endpoint.Extraction

/-!
# Steps of declaring

A step of declaring starts in a registry and ends in one, also when it fails. Binding a class
changes everything at once or nothing at all: it gives the class another endpoint, and in a
group it makes this endpoint and the class the last ones of the group.
-/

namespace RestContract

/-- Looking up an entry that was set finds it. -/
theorem lookup_setEntry (key other : Nat) (entry : α) (entries : List (Nat × α)) :
    (setEntry key entry entries).lookup other =
      if other = key then some entry else entries.lookup other := by
  induction entries with
  | nil =>
    by_cases h : other = key
    · simp [setEntry, h]
    · simp [setEntry, List.lookup_cons, h, beq_eq_false_iff_ne.mpr h]
  | cons e rest ih =>
    obtain ⟨k, v⟩ := e
    by_cases hk : k = key
    · subst hk
      by_cases ho : other = k
      · simp [setEntry, ho]
      · simp [setEntry, List.lookup_cons, ho, beq_eq_false_iff_ne.mpr ho]
    · by_cases ho : other = k
      · subst ho
        simp [setEntry, hk]
      · simp [setEntry, List.lookup_cons, hk, ih, beq_eq_false_iff_ne.mpr ho]

namespace Registry

/-- The registry in which a contract class has an entry. -/
def setContract (r : Registry) (key : Nat) (entry : ContractEntry) : Registry :=
  { r with contracts := setEntry key entry r.contracts }

/-- The registry in which a group class has an entry. -/
def setGroup (r : Registry) (key : Nat) (entry : GroupEntry) : Registry :=
  { r with groups := setEntry key entry r.groups }

variable (r : Registry) (key other : Nat)

@[simp] theorem contract?_setContract (entry : ContractEntry) :
    (r.setContract key entry).contract? other =
      if other = key then some entry else r.contract? other :=
  lookup_setEntry key other entry r.contracts

@[simp] theorem group?_setContract (entry : ContractEntry) :
    (r.setContract key entry).group? other = r.group? other := rfl

@[simp] theorem contract?_setGroup (entry : GroupEntry) :
    (r.setGroup key entry).contract? other = r.contract? other := rfl

@[simp] theorem group?_setGroup (entry : GroupEntry) :
    (r.setGroup key entry).group? other = if other = key then some entry else r.group? other :=
  lookup_setEntry key other entry r.groups

end Registry

/-! ## Runs of steps -/

namespace Declaring

/-- A step after another one runs in the registry that the first one leaves, unless that fails. -/
theorem run_bind (x : Declaring α) (f : α → Declaring β) (r : Registry) :
    (x >>= f).run.run r =
      match x.run.run r with
      | (.ok a, r') => (f a).run.run r'
      | (.error e, r') => (.error e, r') := by
  rcases h : x.run.run r with ⟨_ | _, r'⟩ <;> simp [ExceptT.run_bind, StateT.run_bind, h] <;> rfl

/-- Looking something up leaves the registry as it is. -/
theorem run_ask (f : Registry → Outcome α) (r : Registry) : (ask f).run.run r = (f r, r) := by
  have hget : (get : Declaring Registry).run.run r = (.ok r, r) := rfl
  rw [ask, run_bind, hget]
  dsimp only
  cases f r <;> rfl

/-- A given result leaves the registry as it is. -/
theorem run_lift (o : Outcome α) (r : Registry) : (lift o).run.run r = (o, r) := run_ask _ r

/-- The registry is at hand. -/
theorem run_get (r : Registry) : (get : Declaring Registry).run.run r = (.ok r, r) := rfl

/-- A result needs no step. -/
theorem run_pure (a : α) (r : Registry) : (pure a : Declaring α).run.run r = (.ok a, r) := rfl

/-- Changing the entry of a class that is not known changes nothing. -/
theorem run_onContract (key : Nat) (f : ContractEntry → ContractEntry) (r : Registry) :
    (onContract key f).run.run r = (.ok (),
      match r.contract? key with
      | some entry => r.setContract key (f entry)
      | none => r) := rfl

/-- Changing the entry of a group that is not known changes nothing. -/
theorem run_onGroup (key : Nat) (f : GroupEntry → GroupEntry) (r : Registry) :
    (onGroup key f).run.run r = (.ok (),
      match r.group? key with
      | some entry => r.setGroup key (f entry)
      | none => r) := rfl

/-- What binding a class as an endpoint changes. -/
inductive Bound (r : Registry) (key : Nat) (e : EndpointSchema) :
    Option GroupTag → Registry → Prop where
  /-- Outside every group the class has another schema. -/
  | alone {entry : ContractEntry} {d : EndpointDeclaration} : r.contract? key = some entry →
      entry.declaration = some d → d.extract none = .ok e →
      Bound r key e none (r.setContract key { entry with schema := some e })
  /-- In a group the class is one more of its members. -/
  | member {tag : GroupTag} {group : GroupEntry} {g g' : GroupSchema} {entry : ContractEntry}
      {d : EndpointDeclaration} : r.group? tag.key = some group → group.schema = some g →
      r.contract? key = some entry → entry.declaration = some d →
      d.extract (some g.header) = .ok e → g.add e = .ok g' →
      Bound r key e (some tag)
        ((r.setGroup tag.key
          { group with schema := some g', contracts := group.contracts ++ [key] }).setContract key
            { entry with schema := some e })

/-- The group that a class is stands in its entry. -/
theorem groupOf_eq_ok {r : Registry} {tag : GroupTag} {g : GroupSchema} :
    r.groupOf tag = .ok g ↔ ∃ entry, r.group? tag.key = some entry ∧ entry.schema = some g := by
  unfold Registry.groupOf
  cases r.group? tag.key with
  | none => simp
  | some entry => cases h : entry.schema <;> simp [h]

/-- Joining a group fails and changes nothing, or makes the class one more of its members. -/
theorem run_join {tag : GroupTag} {key : Nat} {e : EndpointSchema} {r : Registry}
    {group : GroupEntry} {g : GroupSchema} (hgroup : r.group? tag.key = some group)
    (hschema : group.schema = some g) :
    (join tag key e).run.run r =
      match g.add e with
      | .error f => (.error f, r)
      | .ok g' => (.ok (), r.setGroup tag.key
          { group with schema := some g', contracts := group.contracts ++ [key] }) := by
  have hg : r.groupOf tag = .ok g := groupOf_eq_ok.mpr ⟨group, hgroup, hschema⟩
  unfold join
  simp only [run_bind, run_ask, run_lift, hg]
  cases g.add e with
  | error f => rfl
  | ok g' => simp only [run_onGroup, hgroup]

/-- Binding a class fails and changes nothing, or makes it an endpoint. -/
theorem bind_cases (key : Nat) (group : Option GroupTag) (r : Registry) :
    (∃ f, (bind key group).run.run r = (.error f, r)) ∨
      ∃ e r', (bind key group).run.run r = (.ok e, r') ∧ Bound r key e group r' := by
  unfold bind
  cases group with
  | none =>
    simp only [run_bind, run_pure, run_get]
    cases hentry : r.contract? key with
    | none => exact .inl ⟨_, rfl⟩
    | some entry =>
      simp only [Option.bind_some]
      cases hd : entry.declaration with
      | none => exact .inl ⟨_, rfl⟩
      | some d =>
        simp only [run_bind, run_lift]
        cases he : d.extract none with
        | error f => exact .inl ⟨f, rfl⟩
        | ok e =>
          refine .inr ⟨e, _, ?_, .alone hentry hd he⟩
          simp only [run_onContract, hentry, run_pure]
  | some tag =>
    simp only [run_bind, run_pure, run_get, run_ask]
    cases hg : r.groupOf tag with
    | error f => exact .inl ⟨f, rfl⟩
    | ok g =>
      obtain ⟨group, hgroup, hschema⟩ := groupOf_eq_ok.mp hg
      cases hentry : r.contract? key with
      | none =>
        simp only [hentry, Option.bind_none]
        exact .inl ⟨_, rfl⟩
      | some entry =>
        simp only [hentry, Option.bind_some]
        cases hd : entry.declaration with
        | none => exact .inl ⟨_, rfl⟩
        | some d =>
          simp only [run_bind, run_lift]
          cases he : d.extract (some g.header) with
          | error f => exact .inl ⟨f, rfl⟩
          | ok e =>
            simp only [run_join hgroup hschema]
            cases hadd : g.add e with
            | error f => exact .inl ⟨f, rfl⟩
            | ok g' =>
              refine .inr ⟨e, _, ?_, .member hgroup hschema hentry hd he hadd⟩
              simp only [run_onContract, Registry.contract?_setGroup, hentry, run_pure]

end Declaring

end RestContract

import RestContract.Proofs.Contract.Linked

/-!
# Classes that join a group

A group that has just been started takes its declared classes one after the other. Each of them is
bound from its declaration, becomes the last member, and is the only class that changes; the first
one that is refused ends the run, and those before it have joined.
-/

namespace RestContract

/-- The endpoint of a declaration in a group, and the group with it. -/
def GroupSchema.enroll (g : GroupSchema) (d : EndpointDeclaration) :
    Outcome (EndpointSchema × GroupSchema) := do
  let e ← d.extract (some g.header)
  pure (e, ← g.add e)

private theorem GroupSchema.enroll_eq_ok {g g' : GroupSchema} {d : EndpointDeclaration}
    {e : EndpointSchema} (h : g.enroll d = .ok (e, g')) :
    d.extract (some g.header) = .ok e ∧ g' = { g with members := g.members ++ [e] } := by
  obtain ⟨e₁, he, h⟩ := Outcome.bind_eq_ok.mp h
  obtain ⟨g₁, hg, h⟩ := Outcome.bind_eq_ok.mp h
  obtain ⟨rfl, rfl⟩ := Prod.mk.inj (Except.ok.inj h)
  exact ⟨he, (add_eq_ok hg).2⟩

namespace Registry

/-- Whether a class has a declaration from which a group would bind it. -/
def hasDeclaration (r : Registry) (key : Nat) : Bool :=
  ((r.contract? key).bind (·.declaration)).isSome

/-- A class has been bound from its declaration as a member of a group. -/
def Rebound (r r' : Registry) (header : GroupHeader) (key : Nat) (member : EndpointSchema) :
    Prop :=
  ∃ entry d, r.contract? key = some entry ∧ entry.declaration = some d ∧
    d.extract (some header) = .ok member ∧
      r'.contract? key = some { entry with schema := some member }

/-- Some classes have joined a group that has just been started, and nothing else has changed. -/
structure Joined (r : Registry) (tag : GroupTag) (name : String) (g : GroupSchema)
    (keys : List Nat) (members : List EndpointSchema) (r' : Registry) : Prop where
  /-- The group lists the classes and the members. -/
  group : r'.group? tag.key = some ⟨name, some { g with members := members }, keys⟩
  /-- No other group has changed. -/
  otherGroups : ∀ other, other ≠ tag.key → r'.group? other = r.group? other
  /-- The classes are the members, one after the other. -/
  bound : List.Forall₂ (r.Rebound r' g.header) keys members
  /-- No other class has changed. -/
  otherContracts : ∀ key, key ∉ keys → r'.contract? key = r.contract? key

section

variable {r r' : Registry} {tag : GroupTag} {name : String} {g : GroupSchema} {keys : List Nat}
  {members : List EndpointSchema}

/-- A group that has just been started has no members. -/
theorem Joined.start {entry : GroupEntry} (hempty : g.members = []) :
    (r.setGroup tag.key { entry with schema := some g, contracts := [] }).Joined tag entry.name g
      [] [] (r.setGroup tag.key { entry with schema := some g, contracts := [] }) where
  group := by simp [← hempty]
  otherGroups _ _ := rfl
  bound := .nil
  otherContracts _ _ := rfl

/-- A class that has joined is the endpoint of its declaration. -/
theorem Joined.rebound (h : r.Joined tag name g keys members r') {key : Nat} (hk : key ∈ keys) :
    ∃ member, r.Rebound r' g.header key member := by
  obtain ⟨i, hi, rfl⟩ := List.getElem_of_mem hk
  have hi' : i < members.length := h.bound.length_eq ▸ hi
  exact ⟨_, h.bound.get hi hi'⟩

/-- Joining a group changes nothing of a class but its endpoint. -/
theorem Joined.contract? (h : r.Joined tag name g keys members r') {key : Nat}
    {entry : ContractEntry} (hentry : r.contract? key = some entry) :
    ∃ schema, r'.contract? key = some { entry with schema := schema } := by
  by_cases hk : key ∈ keys
  · obtain ⟨member, old, d, hold, -, -, hnew⟩ := h.rebound hk
    obtain rfl := Option.some.inj (hentry.symm.trans hold)
    exact ⟨some member, hnew⟩
  · exact ⟨entry.schema, (h.otherContracts key hk).trans hentry⟩

/-- Joining a group leaves every class its declaration. -/
theorem Joined.declaration (h : r.Joined tag name g keys members r') (key : Nat) :
    (r'.contract? key).bind (·.declaration) = (r.contract? key).bind (·.declaration) := by
  cases hentry : r.contract? key with
  | some entry =>
    obtain ⟨schema, hnew⟩ := h.contract? hentry
    rw [hnew]
    rfl
  | none =>
    have hk : key ∉ keys := by
      intro hk
      obtain ⟨-, old, -, hold, -⟩ := h.rebound hk
      rw [hentry] at hold
      cases hold
    rw [h.otherContracts key hk, hentry]

/-- One more class joins a group with the endpoint of its declaration. -/
theorem Joined.snoc (h : r.Joined tag name g keys members r') {key : Nat} {entry : ContractEntry}
    {d : EndpointDeclaration} {e : EndpointSchema} (hentry : r.contract? key = some entry)
    (hd : entry.declaration = some d) (he : d.extract (some g.header) = .ok e) :
    r.Joined tag name g (keys ++ [key]) (members ++ [e])
      ((r'.setGroup tag.key
        ⟨name, some { g with members := members ++ [e] }, keys ++ [key]⟩).setContract key
          { entry with schema := some e }) where
  group := by simp
  otherGroups other hother := by simp [hother, h.otherGroups other hother]
  bound := by
    -- A class that joins again is bound from the same declaration, so it is the same endpoint.
    have hold : List.Forall₂ (r.Rebound ((r'.setGroup tag.key
        ⟨name, some { g with members := members ++ [e] }, keys ++ [key]⟩).setContract key
          { entry with schema := some e }) g.header) keys members := by
      refine h.bound.imp ?_
      rintro k member ⟨old, d', hk, hd', hmember, hnew⟩
      refine ⟨old, d', hk, hd', hmember, ?_⟩
      by_cases hkey : k = key
      · subst hkey
        obtain rfl := Option.some.inj (hentry.symm.trans hk)
        obtain rfl := Option.some.inj (hd.symm.trans hd')
        obtain rfl := Except.ok.inj (he.symm.trans hmember)
        simp
      · simp [hkey, hnew]
    have hlast : r.Rebound ((r'.setGroup tag.key
        ⟨name, some { g with members := members ++ [e] }, keys ++ [key]⟩).setContract key
          { entry with schema := some e }) g.header key e := ⟨entry, d, hentry, hd, he, by simp⟩
    exact List.rel_append hold (.cons hlast .nil)
  otherContracts k hk := by
    rw [List.mem_append, List.mem_singleton, not_or] at hk
    simp [hk.2, h.otherContracts k hk.1]

end

end Registry

namespace Declaring

open Registry (Joined Rebound)

/-- Binding a class in a group fails and changes nothing, or makes it the last member. -/
theorem run_bind_member {r : Registry} {tag : GroupTag} {group : GroupEntry} {g : GroupSchema}
    {key : Nat} {entry : ContractEntry} {d : EndpointDeclaration}
    (hgroup : r.group? tag.key = some group) (hschema : group.schema = some g)
    (hentry : r.contract? key = some entry) (hd : entry.declaration = some d) :
    (bind key (some tag)).run.run r =
      match g.enroll d with
      | .error f => (.error f, r)
      | .ok (e, g') => (.ok e, (r.setGroup tag.key
          { group with schema := some g', contracts := group.contracts ++ [key] }).setContract key
            { entry with schema := some e }) := by
  have hg : r.groupOf tag = .ok g := groupOf_eq_ok.mpr ⟨group, hgroup, hschema⟩
  obtain ⟨c, declaration, schema⟩ := entry
  obtain rfl : declaration = some d := hd
  unfold bind GroupSchema.enroll
  simp only [run_bind, run_pure, run_get, run_ask, hg, hentry, Option.bind_some, run_lift]
  cases d.extract (some g.header) with
  | error f => rfl
  | ok e =>
    simp only [run_join hgroup hschema]
    cases hadd : g.add e with
    | error f => simp [Bind.bind, Except.bind, hadd]
    | ok g' =>
      simp only [run_onContract, Registry.contract?_setGroup, hentry]
      simp [Bind.bind, Except.bind, hadd, Pure.pure, Except.pure]

/-- A class without a declaration is not adopted. -/
theorem run_adopt_of_not {r : Registry} {key : Nat} (tag : GroupTag)
    (h : r.hasDeclaration key = false) : (adopt tag key).run.run r = (.ok (), r) := by
  unfold Registry.hasDeclaration at h
  unfold adopt
  simp only [run_bind, run_get, h]
  rfl

/-- A class with a declaration is bound. -/
theorem run_adopt {r : Registry} {key : Nat} (tag : GroupTag) (h : r.hasDeclaration key = true) :
    (adopt tag key).run.run r =
      match (bind key (some tag)).run.run r with
      | (.error f, r') => (.error f, r')
      | (.ok _, r') => (.ok (), r') := by
  unfold Registry.hasDeclaration at h
  unfold adopt
  simp only [run_bind, run_get, h, if_true, run_pure]
  rcases (bind key (some tag)).run.run r with ⟨_ | _, r'⟩ <;> rfl

variable {r r' : Registry} {tag : GroupTag} {name : String} {g : GroupSchema} {keys : List Nat}
  {members : List EndpointSchema}

/-- One more class joins the group, or is refused and changes nothing. -/
theorem adopt_cases (h : r.Joined tag name g keys members r') {key : Nat} {entry : ContractEntry}
    {d : EndpointDeclaration} (hentry : r.contract? key = some entry)
    (hd : entry.declaration = some d) :
    (∃ f, ({ g with members := members } : GroupSchema).enroll d = .error f ∧
      (adopt tag key).run.run r' = (.error f, r')) ∨
      ∃ e r'', (adopt tag key).run.run r' = (.ok (), r'') ∧
        r.Joined tag name g (keys ++ [key]) (members ++ [e]) r'' := by
  obtain ⟨schema, hentry'⟩ := h.contract? hentry
  have hdeclared : r'.hasDeclaration key = true := by
    rw [Registry.hasDeclaration, hentry', Option.bind_some, hd, Option.isSome_some]
  have hrun := run_adopt tag hdeclared
  rw [run_bind_member h.group rfl hentry' hd] at hrun
  cases henroll : ({ g with members := members } : GroupSchema).enroll d with
  | error f =>
    rw [henroll] at hrun
    exact .inl ⟨f, rfl, hrun⟩
  | ok pair =>
    obtain ⟨e, g'⟩ := pair
    rw [henroll] at hrun
    obtain ⟨he, rfl⟩ := GroupSchema.enroll_eq_ok henroll
    have hjoined := h.snoc hentry hd he
    exact .inr ⟨e, _, hrun, hjoined⟩

/-- Classes join a group one after the other until one of them is refused. -/
theorem forM_adopt_cases (h : r.Joined tag name g keys members r') (classes : List Nat) :
    (∃ r'' members', (classes.forM (Declaring.adopt tag)).run.run r' = (.ok (), r'') ∧
      r.Joined tag name g (keys ++ classes.filter r.hasDeclaration) members' r'') ∨
      ∃ f r'' done key rest members',
        (classes.forM (Declaring.adopt tag)).run.run r' = (.error f, r'') ∧
        classes = done ++ key :: rest ∧
        r.Joined tag name g (keys ++ done.filter r.hasDeclaration) members' r'' ∧
        ∃ entry d, r.contract? key = some entry ∧ entry.declaration = some d ∧
          ({ g with members := members' } : GroupSchema).enroll d = .error f := by
  induction classes generalizing keys members r' with
  | nil => exact .inl ⟨r', members, rfl, by simpa using h⟩
  | cons key rest ih =>
    have hdeclared : r'.hasDeclaration key = r.hasDeclaration key := by
      rw [Registry.hasDeclaration, h.declaration key, Registry.hasDeclaration]
    simp only [List.forM_eq_forM, List.forM_cons, run_bind] at ih ⊢
    by_cases hk : r.hasDeclaration key = true
    · obtain ⟨entry, hentry, d, hd⟩ : ∃ entry, r.contract? key = some entry ∧
          ∃ d, entry.declaration = some d := by
        obtain ⟨d, hd⟩ := Option.isSome_iff_exists.mp hk
        obtain ⟨entry, hentry, hd⟩ := Option.bind_eq_some_iff.mp hd
        exact ⟨entry, hentry, d, hd⟩
      rcases adopt_cases h hentry hd with ⟨f, henroll, hrun⟩ | ⟨e, next, hrun, hjoined⟩
      · refine .inr ⟨f, r', [], key, rest, members, ?_, rfl, by simpa using h, entry, d, hentry, hd,
          henroll⟩
        rw [hrun]
      · rw [hrun]
        rcases ih hjoined with ⟨r'', members', hrest, hjoined'⟩ |
          ⟨f, r'', done, key', rest', members', hrest, rfl, hjoined', hrefused⟩
        · refine .inl ⟨r'', members', hrest, ?_⟩
          rw [List.filter_cons_of_pos hk]
          simpa using hjoined'
        · refine .inr ⟨f, r'', key :: done, key', rest', members', hrest, rfl, ?_, hrefused⟩
          rw [List.filter_cons_of_pos hk]
          simpa using hjoined'
    · rw [run_adopt_of_not tag (by rw [hdeclared]; simpa using hk)]
      rcases ih h with ⟨r'', members', hrest, hjoined⟩ |
        ⟨f, r'', done, key', rest', members', hrest, rfl, hjoined, hrefused⟩
      · refine .inl ⟨r'', members', hrest, ?_⟩
        rwa [List.filter_cons_of_neg hk]
      · refine .inr ⟨f, r'', key :: done, key', rest', members', hrest, rfl, ?_, hrefused⟩
        rwa [List.filter_cons_of_neg hk]

end Declaring

end RestContract

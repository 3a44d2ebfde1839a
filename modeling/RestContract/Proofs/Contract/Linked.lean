import Mathlib
import RestContract.Proofs.Contract.Steps

/-!
# Groups and their classes

A group lists its members, and the contract classes that were bound as members; each class has
the endpoint of its last binding. Whatever is declared, in whatever order, both lists have the
same length and the classes stand for the members one after the other. A class is the member for
which it stands exactly when its own endpoint belongs to the group: bound once more elsewhere it
stays in the lists of the group, but is another endpoint.
-/

namespace RestContract

/-! ## What belongs together -/

namespace Registry

/-- A class stands in a group for one of its members: it is that member, unless it has been bound
elsewhere since. -/
structure Holds (r : Registry) (header : GroupHeader) (key : Nat) (member : EndpointSchema) :
    Prop where
  /-- The member belongs to the group. -/
  group : member.group = some header
  /-- The class has the name of the member, and is it or belongs elsewhere. -/
  bound : ∃ entry e, r.contract? key = some entry ∧ entry.schema = some e ∧
    member.name = .text entry.contract.tag.name ∧ (e = member ∨ e.group ≠ some header)

/-- The classes and the groups of a registry belong together. -/
structure Linked (r : Registry) : Prop where
  /-- Every contract class is known by its own key. -/
  keys : ∀ key entry, r.contract? key = some entry →
    entry.contract.tag.key = key ∧ key < r.nextKey
  /-- The declaration of a class has its name. -/
  names : ∀ key entry d, r.contract? key = some entry → entry.declaration = some d →
    d.name = .text entry.contract.tag.name
  /-- The keys of groups have been given out. -/
  headers : ∀ key group g, r.group? key = some group → group.schema = some g →
    g.header.key < r.nextKey
  /-- Different classes are different groups. -/
  apart : ∀ key group g key' group' g', r.group? key = some group → group.schema = some g →
    r.group? key' = some group' → group'.schema = some g' → g.header.key = g'.header.key →
      key = key'
  /-- The classes of a group stand for its members, one after the other. -/
  members : ∀ key group g, r.group? key = some group → group.schema = some g →
    List.Forall₂ (r.Holds g.header) group.contracts g.members

/-- No classes belong together. -/
theorem linked_empty : empty.Linked := by
  have hcontract : ∀ key, empty.contract? key = none := fun _ => rfl
  have hgroup : ∀ key, empty.group? key = none := fun _ => rfl
  constructor <;> simp [hcontract, hgroup]

namespace Linked

variable {r : Registry} {key : Nat}

/-- Giving a key out changes no class. -/
theorem fresh (h : r.Linked) : { r with nextKey := r.nextKey + 1 : Registry }.Linked where
  keys key entry hentry :=
    ⟨(h.keys key entry hentry).1, Nat.lt_succ_of_lt (h.keys key entry hentry).2⟩
  names := h.names
  headers key group g hgroup hg := Nat.lt_succ_of_lt (h.headers key group g hgroup hg)
  apart := h.apart
  members key group g hgroup hg := (h.members key group g hgroup hg).imp fun _ _ hm => ⟨hm.1, hm.2⟩

/-- A class may get a schema that no group takes for its own. -/
theorem setContract (h : r.Linked) {entry : ContractEntry}
    (hkey : entry.contract.tag.key = key ∧ key < r.nextKey)
    (hname : ∀ d, entry.declaration = some d → d.name = .text entry.contract.tag.name)
    (hold : ∀ old, r.contract? key = some old → entry.contract = old.contract ∧
      (entry.schema = old.schema ∨ ∃ e, entry.schema = some e ∧
        ∀ other group g, r.group? other = some group → group.schema = some g →
          key ∈ group.contracts → e.group ≠ some g.header)) :
    (r.setContract key entry).Linked where
  keys other found hfound := by
    rw [contract?_setContract] at hfound
    split at hfound
    next ho =>
      obtain rfl := Option.some.inj hfound
      exact ho ▸ hkey
    next => exact h.keys other found hfound
  names other found d hfound hd := by
    rw [contract?_setContract] at hfound
    split at hfound
    next =>
      obtain rfl := Option.some.inj hfound
      exact hname d hd
    next => exact h.names other found d hfound hd
  headers other group g hgroup hg := by
    rw [group?_setContract] at hgroup
    exact h.headers other group g hgroup hg
  apart other group g other' group' g' hgroup hg hgroup' := by
    rw [group?_setContract] at hgroup hgroup'
    exact h.apart other group g other' group' g' hgroup hg hgroup'
  members other group g hgroup hg := by
    rw [group?_setContract] at hgroup
    have hmembers := (List.forall₂_and_left _ _).mpr
      ⟨fun k (hk : k ∈ group.contracts) => hk, h.members other group g hgroup hg⟩
    refine hmembers.imp fun k member hk => ⟨hk.2.group, ?_⟩
    obtain ⟨old, e, hentry, he, hmember, hbound⟩ := hk.2.bound
    by_cases hkk : k = key
    · subst hkk
      obtain ⟨hcontract, hschema⟩ := hold old hentry
      rcases hschema with hschema | ⟨e', he', hother⟩
      · exact ⟨entry, e, by simp, hschema.trans he, hcontract ▸ hmember, hbound⟩
      · exact ⟨entry, e', by simp, he', hcontract ▸ hmember,
          .inr (hother other group g hgroup hg hk.1)⟩
    · exact ⟨old, e, by simp [hkk, hentry], he, hmember, hbound⟩

/-- A class may become a group of its own key whose classes stand for its members. -/
theorem setGroup (h : r.Linked) {group : GroupEntry}
    (hheader : ∀ g, group.schema = some g → g.header.key < r.nextKey ∧
      ∀ other group' g', r.group? other = some group' → group'.schema = some g' →
        g'.header.key = g.header.key → other = key)
    (hmembers : ∀ g, group.schema = some g →
      List.Forall₂ (r.Holds g.header) group.contracts g.members) :
    (r.setGroup key group).Linked where
  keys other entry hentry := by
    rw [contract?_setGroup] at hentry
    exact h.keys other entry hentry
  names other entry d hentry := by
    rw [contract?_setGroup] at hentry
    exact h.names other entry d hentry
  headers other found g hfound hg := by
    rw [group?_setGroup] at hfound
    split at hfound
    next =>
      obtain rfl := Option.some.inj hfound
      exact (hheader g hg).1
    next => exact h.headers other found g hfound hg
  apart other found g other' found' g' hfound hg hfound' hg' hsame := by
    rw [group?_setGroup] at hfound hfound'
    split at hfound <;> split at hfound'
    next ho ho' => exact ho.trans ho'.symm
    next ho _ =>
      obtain rfl := Option.some.inj hfound
      exact ho.trans ((hheader g hg).2 other' found' g' hfound' hg' hsame.symm).symm
    next _ ho' =>
      obtain rfl := Option.some.inj hfound'
      exact ((hheader g' hg').2 other found g hfound hg hsame).trans ho'.symm
    next => exact h.apart other found g other' found' g' hfound hg hfound' hg' hsame
  members other found g hfound hg := by
    rw [group?_setGroup] at hfound
    split at hfound
    next =>
      obtain rfl := Option.some.inj hfound
      exact (hmembers g hg).imp fun _ _ hm => ⟨hm.1, hm.2⟩
    next => exact (h.members other found g hfound hg).imp fun _ _ hm => ⟨hm.1, hm.2⟩

/-- A class may be declared anew. -/
theorem declare (h : r.Linked) {entry : ContractEntry} {d : EndpointDeclaration}
    (hentry : r.contract? key = some entry) (hd : d.name = .text entry.contract.tag.name) :
    (r.setContract key { entry with declaration := some d }).Linked := by
  refine h.setContract (h.keys key entry hentry) ?_ ?_
  · rintro d' ⟨⟩
    exact hd
  · intro old hold
    obtain rfl := Option.some.inj (hentry.symm.trans hold)
    exact ⟨rfl, .inl rfl⟩

/-- A class of a key that nothing has may be added. -/
theorem addContract (h : r.Linked) {c : ContractClass} (hkey : c.tag.key = r.nextKey) :
    ({ r with nextKey := r.nextKey + 1 : Registry }.setContract c.tag.key
      ⟨c, none, none⟩).Linked := by
  refine h.fresh.setContract ⟨rfl, hkey ▸ Nat.lt_succ_self _⟩ nofun fun old hold => ?_
  have hknown := (h.keys c.tag.key old hold).2
  omega

/-- A class may become a group without members, known by a key that no group has. -/
theorem start (h : r.Linked) {group : GroupEntry} {g : GroupSchema}
    (hkey : g.header.key = r.nextKey) (hempty : g.members = []) :
    ({ r with nextKey := r.nextKey + 1 : Registry }.setGroup key
      { group with schema := some g, contracts := [] }).Linked := by
  refine h.fresh.setGroup ?_ ?_
  · rintro g' ⟨⟩
    refine ⟨hkey ▸ Nat.lt_succ_self _, fun other group' g' hgroup' hg' hsame => ?_⟩
    have hknown := h.headers other group' g' hgroup' hg'
    omega
  · rintro g' ⟨⟩
    rw [hempty]
    exact .nil

/-- A class may get the endpoint of a group that does not list it. -/
theorem rebind (h : r.Linked) {entry : ContractEntry} {e : EndpointSchema}
    (hentry : r.contract? key = some entry)
    (hother : ∀ other group g, r.group? other = some group → group.schema = some g →
      key ∈ group.contracts → e.group ≠ some g.header) :
    (r.setContract key { entry with schema := some e }).Linked := by
  refine h.setContract (h.keys key entry hentry) (fun d hd => h.names key entry d hentry hd) ?_
  intro old hold
  obtain rfl := Option.some.inj (hentry.symm.trans hold)
  exact ⟨rfl, .inr ⟨e, rfl, hother⟩⟩

/-- A class whose name no member of a group has is not listed by the group. -/
theorem notMem_contracts (h : r.Linked) {tag : Nat} {group : GroupEntry} {g : GroupSchema}
    {entry : ContractEntry} (hgroup : r.group? tag = some group) (hg : group.schema = some g)
    (hentry : r.contract? key = some entry)
    (hnew : ∀ member ∈ g.members, member.name ≠ .text entry.contract.tag.name) :
    key ∉ group.contracts := by
  intro hmem
  obtain ⟨i, hi, hkey⟩ := List.getElem_of_mem hmem
  have hmembers := h.members tag group g hgroup hg
  have hi' : i < g.members.length := hmembers.length_eq ▸ hi
  obtain ⟨old, _, hold, -, hmember, -⟩ := (hmembers.get hi hi').bound
  rw [List.get_eq_getElem, hkey, hentry] at hold
  obtain rfl := Option.some.inj hold
  exact hnew _ (List.getElem_mem hi') hmember

/-- Binding a class keeps classes and groups together. -/
theorem bound (h : r.Linked) {e : EndpointSchema} {tag : Option GroupTag} {r' : Registry}
    (hbound : Declaring.Bound r key e tag r') : r'.Linked := by
  cases hbound with
  | @alone entry d hentry hd he =>
    obtain ⟨_, _, _, -, -, -, -, -, -, rfl⟩ := EndpointDeclaration.extract_eq_ok he
    exact h.rebind hentry fun _ _ _ _ _ _ => nofun
  | @member tag group g g' entry d hgroup hg hentry hd he hadd =>
    obtain ⟨hnew, rfl⟩ := GroupSchema.add_eq_ok hadd
    obtain ⟨method, path, parameters, -, -, -, -, -, -, heq⟩ := EndpointDeclaration.extract_eq_ok he
    have hname : e.name = .text entry.contract.tag.name := by
      rw [heq]
      exact h.names key entry d hentry hd
    have hheader : e.group = some g.header := by rw [heq]
    -- Another member of its name would have kept the class out, so it is not in the group yet.
    have habsent : key ∉ group.contracts := by
      refine h.notMem_contracts hgroup hg hentry fun member hmember hsame => ?_
      exact List.find?_eq_none.mp hnew member hmember (by simp [hsame, hname])
    have hfirst : (r.setContract key { entry with schema := some e }).Linked := by
      refine h.rebind hentry fun other group' g' hgroup' hg' hmem hsame => ?_
      have hkeys : g.header.key = g'.header.key := by
        rw [hheader] at hsame
        rw [Option.some.inj hsame]
      obtain rfl := h.apart tag.key group g other group' g' hgroup hg hgroup' hg' hkeys
      obtain rfl := Option.some.inj (hgroup.symm.trans hgroup')
      exact habsent hmem
    have hother := hfirst.members tag.key group g hgroup hg
    refine hfirst.setGroup ?_ ?_
    · rintro g' ⟨⟩
      refine ⟨h.headers tag.key group g hgroup hg, fun other group' g' hgroup' hg' hsame => ?_⟩
      exact h.apart other group' g' tag.key group g hgroup' hg' hgroup hg hsame
    · rintro g' ⟨⟩
      refine List.rel_append hother (.cons ⟨hheader, ?_⟩ .nil)
      exact ⟨{ entry with schema := some e }, e, by simp, rfl, hname, .inl rfl⟩

end Linked
end Registry

/-! ## Declaring classes -/

/-- A step that declares something about classes. -/
inductive ClassStep where
  /-- A contract class is defined, known by a new key. -/
  | contract (name : String) (parent : Option RecordTag) (fields : List ClassField)
    (resolver : Option Resolver)
  /-- A plain class is defined, known by a new key. -/
  | plain (name : String)
  /-- A class is declared as an endpoint. -/
  | endpoint (args : EndpointArguments) (target : Option Nat)
  /-- A class is declared as a group. -/
  | group (path auth : Value) (target : Option GroupTag) (members : List Nat)

namespace ClassStep

/-- What a step does. -/
def run : ClassStep → Declaring Unit
  | .contract name parent fields resolver => do
    Declaring.addContract
      ⟨RecordTag.of (← Declaring.fresh) name parent fields, fields, resolver⟩
  | .plain name => do Declaring.addGroup ⟨← Declaring.fresh, name⟩
  | .endpoint args target => do let _ ← declareEndpoint args target
  | .group path auth target members => do let _ ← declareGroup path auth target members

end ClassStep

namespace Declaring

variable {r : Registry}

/-- In a registry a step leaves one whose classes and groups belong together. -/
def Leaves (x : Declaring α) (r : Registry) : Prop := (x.run.run r).2.Linked

/-- A step after another one starts where that one ends. -/
theorem Leaves.bind {x : Declaring α} {f : α → Declaring β} (h : x.Leaves r)
    (hf : ∀ a r', x.run.run r = (.ok a, r') → r'.Linked → (f a).Leaves r') :
    (x >>= f).Leaves r := by
  unfold Leaves at h ⊢
  rw [run_bind]
  rcases hrun : x.run.run r with ⟨e | a, r'⟩
  · rw [hrun] at h
    exact h
  · rw [hrun] at h
    exact hf a r' hrun h

/-- Looking something up leaves classes and groups together. -/
theorem leaves_ask (g : Registry → Outcome α) (h : r.Linked) : (ask g).Leaves r := by
  rw [Leaves, run_ask]
  exact h

/-- Steps that look something up go on where they are. -/
theorem Leaves.ask_bind {g : Registry → Outcome α} {f : α → Declaring β} (h : r.Linked)
    (hf : ∀ a, g r = .ok a → (f a).Leaves r) : (ask g >>= f).Leaves r := by
  refine .bind (leaves_ask g h) fun a r' hrun _ => ?_
  rw [run_ask] at hrun
  obtain ⟨ha, rfl⟩ := Prod.mk.inj hrun
  exact hf a ha

/-- Steps that look at the registry go on where they are. -/
theorem Leaves.get_bind {f : Registry → Declaring α} (h : (f r).Leaves r) :
    (get >>= f).Leaves r := h

/-- Steps that take a key go on without it. -/
theorem Leaves.fresh_bind {f : Nat → Declaring α}
    (h : (f r.nextKey).Leaves { r with nextKey := r.nextKey + 1 }) : (fresh >>= f).Leaves r := h

/-- Binding a class leaves classes and groups together. -/
theorem leaves_bind (key : Nat) (tag : Option GroupTag) (h : r.Linked) :
    (Declaring.bind key tag).Leaves r := by
  unfold Leaves
  rcases bind_cases key tag r with ⟨f, hrun⟩ | ⟨e, r', hrun, hbound⟩
  · rw [hrun]
    exact h
  · rw [hrun]
    exact h.bound hbound

/-- So does adopting some classes one after the other. -/
theorem leaves_forM_adopt (tag : GroupTag) (keys : List Nat) (h : r.Linked) :
    (keys.forM (adopt tag)).Leaves r := by
  induction keys generalizing r with
  | nil => exact h
  | cons key rest ih =>
    have hadopt : (adopt tag key).Leaves r := by
      unfold adopt
      refine .get_bind ?_
      split
      · exact (leaves_bind key (some tag) h).bind fun _ _ _ h' => h'
      · exact h
    exact hadopt.bind fun _ _ _ h' => ih h'

/-- Declaring an endpoint leaves classes and groups together. -/
theorem leaves_declareEndpoint (args : EndpointArguments) (target : Option Nat) (h : r.Linked) :
    (declareEndpoint args target).Leaves r := by
  unfold declareEndpoint
  refine .ask_bind h fun method _ => ?_
  split
  · exact h
  · refine .get_bind ?_
    split
    · exact h
    next key entry hfound =>
      obtain ⟨k, -, hk⟩ := Option.bind_eq_some_iff.mp hfound
      obtain ⟨found, hentry, hpair⟩ := Option.map_eq_some_iff.mp hk
      obtain ⟨rfl, rfl⟩ := Prod.mk.inj hpair
      refine .bind ?_ fun _ r' _ h' => leaves_bind k args.group h'
      rw [Leaves, run_onContract, hentry]
      exact h.declare hentry rfl

/-- Declaring a group leaves classes and groups together. -/
theorem leaves_declareGroup (path auth : Value) (target : Option GroupTag) (members : List Nat)
    (h : r.Linked) : (declareGroup path auth target members).Leaves r := by
  unfold declareGroup
  dsimp only
  split
  · exact h
  refine .ask_bind h fun auth _ => ?_
  cases target with
  | none => exact h
  | some tag =>
    refine .fresh_bind (.ask_bind h.fresh fun start hstart => ?_)
    obtain ⟨-, -, hkey, hempty⟩ := GroupDeclaration.start_eq_ok hstart
    have hgroup : (onGroup tag.key fun entry =>
        { entry with schema := some start, contracts := [] }).Leaves
          { r with nextKey := r.nextKey + 1 } := by
      rw [Leaves, run_onGroup]
      cases Registry.group? { r with nextKey := r.nextKey + 1 } tag.key with
      | none => exact h.fresh
      | some entry => exact h.start hkey hempty
    refine hgroup.bind fun _ _ _ h' => ?_
    refine (leaves_forM_adopt tag members h').bind fun _ _ _ h'' => ?_
    exact leaves_ask _ h''

end Declaring

/-- Every step leaves classes and groups together. -/
theorem Registry.Linked.run {r : Registry} (h : r.Linked) (step : ClassStep) :
    (step.run.run.run r).2.Linked := by
  cases step with
  | contract name parent fields resolver =>
    exact h.addContract (c := ⟨RecordTag.of r.nextKey name parent fields, fields, resolver⟩) rfl
  | plain name =>
    have hadded : ({ r with nextKey := r.nextKey + 1 : Registry }.setGroup r.nextKey
      ⟨name, none, []⟩).Linked := h.fresh.setGroup nofun nofun
    exact hadded
  | endpoint args target =>
    exact (Declaring.leaves_declareEndpoint args target h).bind fun _ _ _ h' => h'
  | group path auth target members =>
    exact (Declaring.leaves_declareGroup path auth target members h).bind fun _ _ _ h' => h'

/-- The registry in which declarations end that begin without classes; one that fails may have
written something before it did. -/
def ClassStep.declared (steps : List ClassStep) : Registry :=
  steps.foldl (fun r step => (step.run.run.run r).2) .empty

/-- What holds without classes and is kept by every step holds after any declarations. -/
theorem ClassStep.declared_induction {P : Registry → Prop} (hempty : P .empty)
    (hstep : ∀ (step : ClassStep) r, P r → P (step.run.run.run r).2) (steps : List ClassStep) :
    P (declared steps) := by
  unfold declared
  generalize Registry.empty = r at hempty ⊢
  induction steps generalizing r with
  | nil => exact hempty
  | cons step rest ih => exact ih _ (hstep step r hempty)

/-- Declarations that succeed one after the other end there. -/
theorem ClassStep.declared_of_forM {steps : List ClassStep} {r : Registry}
    (h : (steps.forM ClassStep.run).run.run .empty = (.ok (), r)) : declared steps = r := by
  unfold declared
  generalize Registry.empty = start at h ⊢
  induction steps generalizing start with
  | nil => exact (Prod.mk.inj h).2
  | cons step rest ih =>
    rw [List.forM_eq_forM, List.forM_cons, Declaring.run_bind] at h
    rcases hstep : step.run.run.run start with ⟨f | _, r'⟩
    · rw [hstep] at h
      cases (Prod.mk.inj h).1
    · rw [hstep] at h
      rw [List.foldl_cons, hstep]
      exact ih r' h

namespace Registry

/-- Any declarations leave classes and groups together. -/
theorem linked_declared (steps : List ClassStep) : (ClassStep.declared steps).Linked :=
  ClassStep.declared_induction linked_empty (fun step _ h => h.run step) steps

/-- A class stands for a member of a group: the member belongs to the group, and the class is that
member exactly when its own endpoint belongs to the group. -/
def StandsFor (r : Registry) (g : GroupSchema) (tag : RecordTag) (member : EndpointSchema) : Prop :=
  member.group = some g.header ∧
    ∃ e, r.schemaOf tag = .ok e ∧ (e = member ↔ e.group = some g.header)

/-- The classes of keys that stand in a group for its members. -/
theorem Linked.standsFor {r : Registry} (h : r.Linked) {g : GroupSchema} {keys : List Nat}
    {members : List EndpointSchema} (hm : List.Forall₂ (r.Holds g.header) keys members) :
    List.Forall₂ (r.StandsFor g)
      (keys.filterMap fun key => (r.contract? key).map (·.contract.tag)) members := by
  induction hm with
  | nil => exact .nil
  | @cons key member keys members hkey _ ih =>
    obtain ⟨entry, e, hentry, he, -, hbound⟩ := hkey.bound
    rw [List.filterMap_cons_some (by rw [hentry]; rfl)]
    refine .cons ⟨hkey.group, e, ?_, ?_⟩ ih
    · rw [schemaOf, (h.keys key entry hentry).1, hentry, Option.bind_some, he]
    · constructor
      · rintro rfl
        exact hkey.group
      · exact fun hg => hbound.resolve_right fun hne => hne hg

/-- After any declarations the classes of a group stand for its members, one after the other: each
is its member unless it has been bound elsewhere since. -/
theorem contractsOf_declared {steps : List ClassStep} {tag : GroupTag} {g : GroupSchema}
    (hg : (ClassStep.declared steps).groupOf tag = .ok g) :
    ∃ classes, (ClassStep.declared steps).contractsOf tag = .ok classes ∧
      List.Forall₂ ((ClassStep.declared steps).StandsFor g) classes g.members := by
  have hlinked := linked_declared steps
  obtain ⟨group, hgroup, hschema⟩ := Declaring.groupOf_eq_ok.mp hg
  refine ⟨_, ?_, hlinked.standsFor (hlinked.members tag.key group g hgroup hschema)⟩
  rw [contractsOf, hg, hgroup]
  rfl

/-- What is given with the declaration of an endpoint for reading. -/
def readingArguments (path : String) : EndpointArguments :=
  ⟨.text "GET", .text path, .plain .null, none, true, false⟩

/-- A class is declared as an endpoint, and then as a member of a group. -/
def joiningSteps : List ClassStep :=
  [.contract "A" none [] none, .plain "G", .endpoint (readingArguments "/a") (some 1),
    .group (.text "/g") (.text "required") (some ⟨2, "G"⟩) [1]]

/-- The group that these steps declare. -/
def joinedGroup : GroupSchema :=
  ⟨⟨3, .text "G", "/g", .required⟩, [⟨.text "A", .get, "/a", [], .plain .null,
    some ⟨3, .text "G", "/g", .required⟩, false, none⟩]⟩

private theorem groupOf_joiningSteps :
    (ClassStep.declared joiningSteps).groupOf ⟨2, "G"⟩ = .ok joinedGroup := by cbv

/-- The class that was declared as a member of a group stands for it. -/
theorem contractsOf_joiningSteps :
    (ClassStep.declared joiningSteps).groupOf ⟨2, "G"⟩ = .ok joinedGroup ∧
      ∃ classes, (ClassStep.declared joiningSteps).contractsOf ⟨2, "G"⟩ = .ok classes ∧
        List.Forall₂ ((ClassStep.declared joiningSteps).StandsFor joinedGroup) classes
          joinedGroup.members :=
  ⟨groupOf_joiningSteps, contractsOf_declared groupOf_joiningSteps⟩

/-- The class becomes a member of another group as well, one that is open. -/
def sharingSteps : List ClassStep :=
  joiningSteps ++
    [.plain "H", .group (.text "/h") (.text "none") (some ⟨4, "H"⟩) [1]]

/-- What the members of the other group have in common. -/
def sharingHeader : GroupHeader := ⟨5, .text "H", "/h", .anonymous⟩

/-- The endpoint that the class is at last. -/
def sharedSchema : EndpointSchema :=
  ⟨.text "A", .get, "/a", [], .plain .null, some sharingHeader, false, none⟩

/-- The registry in which these steps end. -/
def sharedRegistry : Registry where
  contracts := [(1, {
    contract := ⟨RecordTag.of 1 "A" none [], [], none⟩
    declaration := some
      ⟨.text "A", .text "GET", .text "/a", [], .plain .null, false, true, none⟩
    schema := some sharedSchema })]
  groups := [(2, ⟨"G", some joinedGroup, [1]⟩),
    (4, ⟨"H", some ⟨sharingHeader, [sharedSchema]⟩, [1]⟩)]
  nextKey := 6

private theorem run_sharingSteps :
    (sharingSteps.forM ClassStep.run).run.run .empty = (.ok (), sharedRegistry) := by cbv

/-- Every one of these steps succeeds, and the first group still lists the class and its member; but
the class is not that member any more. -/
theorem not_schemaOf_sharingSteps :
    (sharingSteps.forM ClassStep.run).run.run .empty = (.ok (), ClassStep.declared sharingSteps) ∧
      ¬∀ g, (ClassStep.declared sharingSteps).groupOf ⟨2, "G"⟩ = .ok g →
        ∃ classes, (ClassStep.declared sharingSteps).contractsOf ⟨2, "G"⟩ = .ok classes ∧
          List.Forall₂ (fun tag member =>
            (ClassStep.declared sharingSteps).schemaOf tag = .ok member ∧
              member.group = some g.header) classes g.members := by
  rw [ClassStep.declared_of_forM run_sharingSteps]
  refine ⟨run_sharingSteps, fun h => ?_⟩
  obtain ⟨classes, hlisted, hmembers⟩ := h joinedGroup rfl
  obtain rfl : [RecordTag.of 1 "A" none []] = classes := Except.ok.inj hlisted
  obtain ⟨hmember, hgroup⟩ := hmembers.get (i := 0) (by decide) (by decide)
  have hsame := Except.ok.inj hmember
  rw [← hsame] at hgroup
  have hkeys : (5 : Nat) = 3 := congrArg (·.key) (Option.some.inj hgroup)
  omega

end Registry

end RestContract

import RestContract.Proofs.Contract.Groups
import RestContract.Proofs.Handler.Words

/-!
# The operations of a group

Every class of a group has one operation, named after the class. The names of the classes are apart,
but those of the operations need not be: they are exactly when no two classes have the same words up
to case. Classes named in camel case never do.
-/

namespace RestContract

/-! ## Classes keep their names -/

namespace Registry

/-- Every class that is an endpoint is one of its own name, and so is what was declared of it. -/
def Named (r : Registry) : Prop :=
  ∀ key entry, r.contract? key = some entry →
    (∀ d, entry.declaration = some d → d.name = .text entry.contract.tag.name) ∧
      ∀ e, entry.schema = some e → e.name = .text entry.contract.tag.name

namespace Named

variable {r r' : Registry}

/-- What changes no contract class changes no names. -/
theorem same (h : r.Named) (hcontract : ∀ key, r'.contract? key = r.contract? key) : r'.Named :=
  fun key entry hentry => h key entry (hcontract key ▸ hentry)

/-- A class may get an entry of its own name. -/
theorem setContract (h : r.Named) {key : Nat} {entry : ContractEntry}
    (hd : ∀ d, entry.declaration = some d → d.name = .text entry.contract.tag.name)
    (he : ∀ e, entry.schema = some e → e.name = .text entry.contract.tag.name) :
    (r.setContract key entry).Named := by
  intro other found hfound
  rw [contract?_setContract] at hfound
  split at hfound
  next =>
    obtain rfl := Option.some.inj hfound
    exact ⟨hd, he⟩
  next => exact h other found hfound

private theorem extract (h : r.Named) {key : Nat} {entry : ContractEntry} {d : EndpointDeclaration}
    {group : Option GroupHeader} {e : EndpointSchema} (hentry : r.contract? key = some entry)
    (hd : entry.declaration = some d) (he : d.extract group = .ok e) :
    e.name = .text entry.contract.tag.name := by
  obtain ⟨_, _, _, -, -, -, -, -, -, rfl⟩ := EndpointDeclaration.extract_eq_ok he
  exact (h key entry hentry).1 d hd

/-- Binding a class keeps names. -/
theorem bound (h : r.Named) {key : Nat} {e : EndpointSchema} {tag : Option GroupTag}
    (hbound : Declaring.Bound r key e tag r') : r'.Named := by
  cases hbound with
  | @alone entry d hentry hd he =>
    have hname := h.extract hentry hd he
    refine h.setContract (h key entry hentry).1 ?_
    rintro e' ⟨⟩
    exact hname
  | @member tag group g g' entry d _ _ hentry hd he _ =>
    have hname := h.extract hentry hd he
    have hgroup : (r.setGroup tag.key
        { group with schema := some g', contracts := group.contracts ++ [key] }).Named :=
      h.same fun _ => rfl
    refine hgroup.setContract (h key entry hentry).1 ?_
    rintro e' ⟨⟩
    exact hname

/-- Binding a class keeps names, also when it fails. -/
theorem bind (h : r.Named) (key : Nat) (tag : Option GroupTag) :
    ((Declaring.bind key tag).run.run r).2.Named := by
  rcases Declaring.bind_cases key tag r with ⟨f, hrun⟩ | ⟨e, r', hrun, hbound⟩
  · rwa [hrun]
  · rw [hrun]
    exact h.bound hbound

/-- Adopting classes one after the other keeps names. -/
theorem forM_adopt (h : r.Named) (tag : GroupTag) (keys : List Nat) :
    ((keys.forM (Declaring.adopt tag)).run.run r).2.Named := by
  induction keys generalizing r with
  | nil => exact h
  | cons key rest ih =>
    rw [List.forM_eq_forM] at ih ⊢
    rw [List.forM_cons, Declaring.run_bind]
    by_cases hk : r.hasDeclaration key = true
    · have hbind := h.bind key (some tag)
      rw [Declaring.run_adopt tag hk]
      rcases hrun : (Declaring.bind key (some tag)).run.run r with ⟨f | _, r'⟩
      · rwa [hrun] at hbind
      · rw [hrun] at hbind
        exact ih hbind
    · rw [Declaring.run_adopt_of_not tag (by simpa using hk)]
      exact ih h

/-- Declaring an endpoint keeps names. -/
theorem declareEndpoint (h : r.Named) (args : EndpointArguments) (target : Option Nat) :
    ((RestContract.declareEndpoint args target).run.run r).2.Named := by
  rcases Declaring.run_declareEndpoint args target r with
    ⟨f, -, hrun⟩ | ⟨key, r₀, rfl, hfirst, hrun⟩
  · rwa [hrun]
  · obtain ⟨method, entry, -, hentry, rfl⟩ := ClassStep.begun?_endpoint_eq_some hfirst
    have hbegun : (r.setContract key
        { entry with declaration := some (args.declarationOf method entry.contract) }).Named := by
      refine h.setContract ?_ (h key entry hentry).2
      rintro d ⟨⟩
      rfl
    rw [hrun]
    exact hbegun.bind key args.group

/-- Declaring a group keeps names. -/
theorem declareGroup (h : r.Named) (path auth : Value) (target : Option GroupTag)
    (members : List Nat) :
    ((RestContract.declareGroup path auth target members).run.run r).2.Named := by
  cases hbegun : ClassStep.begun? r (.group path auth target members) with
  | none => exact h.same (Declaring.agrees_declareGroup hbegun).1
  | some r₀ =>
    cases target with
    | none => cases hbegun
    | some tag =>
      obtain ⟨a, g, entry, -, -, -, hr₀⟩ := ClassStep.begun?_group_eq_some hbegun
      have hnamed : r₀.Named := h.same fun key => by rw [hr₀]; rfl
      have hadopted := hnamed.forM_adopt tag members
      rw [Declaring.run_declareGroup hbegun, Declaring.run_bind]
      rcases hrun : (members.forM (Declaring.adopt tag)).run.run r₀ with ⟨f | _, r'⟩
      · rwa [hrun] at hadopted
      · rw [hrun] at hadopted
        simp only [Declaring.run_ask]
        exact hadopted

/-- Every step keeps names. -/
theorem run (h : r.Named) (step : ClassStep) : (step.run.run.run r).2.Named := by
  cases step with
  | contract name parent fields resolver =>
    exact setContract (h.same fun _ => rfl : Named { r with nextKey := r.nextKey + 1 }) nofun nofun
  | plain name => exact h.same fun _ => rfl
  | endpoint args target =>
    rw [ClassStep.run, Assembly.run_discard]
    exact h.declareEndpoint args target
  | group path auth target members =>
    rw [ClassStep.run, Assembly.run_discard]
    exact h.declareGroup path auth target members

end Named

/-- After any declarations the classes have their own names. -/
theorem named_declared (steps : List ClassStep) : (ClassStep.declared steps).Named :=
  ClassStep.declared_induction (fun _ _ => nofun) (fun step _ h => h.run step) steps

end Registry

/-! ## Operations and members -/

/-- After declarations of classes a group of a class is sound. -/
theorem GroupSchema.Sound.of_declared {steps : List ClassStep} {tag : GroupTag} {g : GroupSchema}
    (hg : (ClassStep.declared steps).groupOf tag = .ok g) : g.Sound := by
  have hregistry : ∀ s : Assembly, (s.after (steps.map .classes)).registry =
      steps.foldl (fun r step => (step.run.run.run r).2) s.registry := by
    clear hg
    induction steps with
    | nil => exact fun s => rfl
    | cons step rest ih => exact fun s => ih (s.run (.classes step)).2
  obtain ⟨entry, hentry, hschema⟩ := Declaring.groupOf_eq_ok.mp hg
  have hsound := (Assembly.sound_empty.after (steps.map .classes)).sound
  refine (hsound.groups (.ofClass tag.key) g ?_).1
  rw [Assembly.group?, hregistry]
  exact Option.bind_eq_some_iff.mpr ⟨entry, hentry, hschema⟩

/-- An operation serves a class that stands for a member: it is named after both. -/
structure Operation.Serves (op : Operation) (member : EndpointSchema) : Prop where
  /-- The class has the name of the member. -/
  member_name : member.name = .text op.contract.name
  /-- The operation is named after the class. -/
  name_eq : op.name = operationName op.contract.name

namespace Operation

variable {ops : List Operation} {members : List EndpointSchema}

/-- Where the names of the members are apart, so are those of the classes. -/
theorem nodup_classNames (h : List.Forall₂ Serves ops members)
    (hapart : members.Pairwise fun a b => a.name.sameKey b.name = false) :
    (ops.map (·.contract.name)).Nodup := by
  have hmembers : members.map (·.name) = (ops.map (·.contract.name)).map Value.text := by
    rw [List.map_map, ← List.forall₂_eq_eq_eq, List.forall₂_map_left_iff,
      List.forall₂_map_right_iff]
    exact h.flip.imp fun _ _ hop => hop.member_name
  have hnames : (members.map (·.name)).Pairwise fun a b => a.sameKey b = false :=
    List.pairwise_map.mpr hapart
  rw [hmembers, List.pairwise_map] at hnames
  exact hnames.imp fun {a b} hab he => by simp [he] at hab

private theorem map_name_eq (h : List.Forall₂ Serves ops members) :
    ops.map (·.name) = (ops.map (·.contract.name)).map operationName := by
  rw [List.map_map]
  refine List.map_congr_left fun op hop => ?_
  obtain ⟨member, -, hop⟩ := exists_mem_of_forall₂ h.flip hop
  exact hop.name_eq

end Operation

/-- A contract class with the endpoint that it is. -/
structure Registry.Contract (r : Registry) where
  /-- The class. -/
  tag : RecordTag
  /-- The endpoint. -/
  schema : EndpointSchema
  /-- The class is this endpoint. -/
  schemaOf_tag : r.schemaOf tag = .ok schema

namespace Registry.Contract

variable {r : Registry}

/-- The name of the operation for a contract: that of its endpoint, in small letters with
underscores. -/
def operationName (c : r.Contract) : String := RestContract.operationName c.schema.name.plain

/-- The operation for a contract. -/
def operation (c : r.Contract) : Operation :=
  ⟨c.operationName, c.tag, c.schema.output, c.schema.streaming⟩

/-- A contract stands for a member: the member and its own endpoint are named after its class. -/
structure StandsFor (c : r.Contract) (member : EndpointSchema) : Prop where
  /-- The member has the name of the class. -/
  member_name : member.name = .text c.tag.name
  /-- So has the endpoint, which may be another one by now. -/
  schema_name : c.schema.name = .text c.tag.name

/-- The operation for a contract serves the class for the member for which it stands. -/
theorem StandsFor.serves {c : r.Contract} {member : EndpointSchema} (h : c.StandsFor member) :
    c.operation.Serves member where
  member_name := h.member_name
  name_eq := by rw [operation, operationName, h.schema_name, Value.plain_text]

private theorem operationOf_tag (c : r.Contract) : r.operationOf c.tag = .ok c.operation := by
  rw [operationOf, c.schemaOf_tag]
  rfl

/-- Contracts have their operations, one after the other. -/
theorem mapM_operationOf (contracts : List r.Contract) :
    (contracts.map (·.tag)).mapM r.operationOf = .ok (contracts.map operation) := by
  induction contracts with
  | nil => rfl
  | cons c rest ih =>
    rw [List.map_cons, List.mapM_cons, c.operationOf_tag, ih]
    rfl

end Registry.Contract

namespace Registry

/-- The classes of keys that stand in a group for its members are contracts that do so. -/
theorem exists_contracts {r : Registry} (hlinked : r.Linked) (hnamed : r.Named)
    {header : GroupHeader} {keys : List Nat} {members : List EndpointSchema}
    (h : List.Forall₂ (r.Holds header) keys members) :
    ∃ contracts : List r.Contract,
      keys.filterMap (fun key => (r.contract? key).map (·.contract.tag)) =
        contracts.map (·.tag) ∧
      List.Forall₂ Contract.StandsFor contracts members := by
  induction h with
  | nil => exact ⟨[], rfl, .nil⟩
  | @cons key member keys members hkey _ ih =>
    obtain ⟨contracts, htags, hstands⟩ := ih
    obtain ⟨entry, e, hentry, he, hmember, -⟩ := hkey.bound
    have hschema : r.schemaOf entry.contract.tag = .ok e := by
      rw [schemaOf, (hlinked.keys key entry hentry).1, hentry, Option.bind_some, he]
    -- Bound elsewhere since, the class is another endpoint, but still one of its own name.
    refine ⟨⟨entry.contract.tag, e, hschema⟩ :: contracts, ?_,
      .cons ⟨hmember, (hnamed key entry hentry).2 e he⟩ hstands⟩
    rw [List.filterMap_cons_some (by rw [hentry]; rfl), htags, List.map_cons]

private theorem exists_operations {r : Registry} (hlinked : r.Linked) (hnamed : r.Named)
    {header : GroupHeader} {keys : List Nat} {members : List EndpointSchema}
    (h : List.Forall₂ (r.Holds header) keys members) :
    ∃ ops, (keys.filterMap fun key => (r.contract? key).map (·.contract.tag)).mapM r.operationOf =
        .ok ops ∧ List.Forall₂ Operation.Serves ops members := by
  obtain ⟨contracts, htags, hstands⟩ := exists_contracts hlinked hnamed h
  refine ⟨contracts.map Contract.operation, ?_, ?_⟩
  · rw [htags, Contract.mapM_operationOf]
  · exact List.forall₂_map_left_iff.mpr (hstands.imp fun _ _ hc => hc.serves)

/-- The names of operations are apart exactly when no two classes have the same words up to case. -/
theorem nodup_operationNames (names : List String) :
    (names.map operationName).Nodup ↔ (names.map lowWords).Nodup := by
  rw [List.Nodup, List.Nodup, List.pairwise_map, List.pairwise_map]
  simp only [ne_eq, operationName_eq_iff]

/-- After any declarations every member of a group has one operation, in the order of the members
and named after the class that stands for it. The names of the classes are apart. Those of the
operations are apart exactly when no two classes have the same words up to case, and always when
the classes are named in camel case. -/
theorem operationsOf_declared {steps : List ClassStep} {tag : GroupTag} {g : GroupSchema}
    (hg : (ClassStep.declared steps).groupOf tag = .ok g) :
    ∃ ops, (ClassStep.declared steps).operationsOf tag = .ok ops ∧
      List.Forall₂ Operation.Serves ops g.members ∧
      (ops.map (·.contract.name)).Nodup ∧
      ((ops.map (·.name)).Nodup ↔ (ops.map fun op => lowWords op.contract.name).Nodup) ∧
      ((∀ op ∈ ops, isCamelCase op.contract.name = true) → (ops.map (·.name)).Nodup) := by
  have hlinked := linked_declared steps
  obtain ⟨group, hgroup, hschema⟩ := Declaring.groupOf_eq_ok.mp hg
  obtain ⟨ops, hops, hserves⟩ := exists_operations hlinked (named_declared steps)
    (hlinked.members tag.key group g hgroup hschema)
  have hclasses := Operation.nodup_classNames hserves (GroupSchema.Sound.of_declared hg).apart
  have hnames := Operation.map_name_eq hserves
  refine ⟨ops, ?_, hserves, hclasses, ?_, fun hcamel => ?_⟩
  · rw [operationsOf, contractsOf, hg, hgroup]
    exact hops
  · rw [hnames, nodup_operationNames, List.map_map]
    rfl
  · rw [hnames]
    refine List.Nodup.map_on (fun a ha b hb hab => ?_) hclasses
    obtain ⟨op, hop, rfl⟩ := List.mem_map.mp ha
    obtain ⟨other, hother, rfl⟩ := List.mem_map.mp hb
    exact eq_of_lowWords (hcamel op hop) (hcamel other hother) (operationName_eq_iff.mp hab)

/-- Two classes whose names have the same words become the members of a group. -/
def acronymSteps : List ClassStep :=
  [.contract "GetUrl" none [] none, .contract "GetURL" none [] none, .plain "G",
    .endpoint (readingArguments "/a") (some 1), .endpoint (readingArguments "/b") (some 2),
    .group (.text "/g") (.text "required") (some ⟨3, "G"⟩) [1, 2]]

/-- A member of this group. -/
def acronymMember (name path : String) : EndpointSchema :=
  ⟨.text name, .get, path, [], .plain .null, some ⟨4, .text "G", "/g", .required⟩, false, none⟩

/-- The group. -/
def acronymGroup : GroupSchema :=
  ⟨⟨4, .text "G", "/g", .required⟩, [acronymMember "GetUrl" "/a", acronymMember "GetURL" "/b"]⟩

private theorem groupOf_acronymSteps :
    (ClassStep.declared acronymSteps).groupOf ⟨3, "G"⟩ = .ok acronymGroup := by cbv

/-- Both members of the group have an operation. -/
theorem operationsOf_acronymSteps :
    (ClassStep.declared acronymSteps).groupOf ⟨3, "G"⟩ = .ok acronymGroup ∧
      ∃ ops, (ClassStep.declared acronymSteps).operationsOf ⟨3, "G"⟩ = .ok ops ∧
        List.Forall₂ Operation.Serves ops acronymGroup.members ∧
        (ops.map (·.contract.name)).Nodup ∧
        ((ops.map (·.name)).Nodup ↔ (ops.map fun op => lowWords op.contract.name).Nodup) ∧
        ((∀ op ∈ ops, isCamelCase op.contract.name = true) → (ops.map (·.name)).Nodup) :=
  ⟨groupOf_acronymSteps, operationsOf_declared groupOf_acronymSteps⟩

/-- The group is declared without a failure, and yet its two operations have one name: a single part
of a handler is all that its check asks for, and serves both members. -/
theorem not_nodup_acronymSteps :
    (acronymSteps.forM ClassStep.run).run.run .empty = (.ok (), ClassStep.declared acronymSteps) ∧
      (∃ h : Handler Id, h.parts.length = 1 ∧
        h.check (ClassStep.declared acronymSteps) ⟨3, "G"⟩ = .ok ()) ∧
      ¬∀ ops, (ClassStep.declared acronymSteps).operationsOf ⟨3, "G"⟩ = .ok ops →
        (ops.map (·.name)).Nodup := by
  refine ⟨by cbv, ⟨⟨"H", none, [("get_url", .function .async fun _ _ => .ok (.value .null))], true⟩,
    rfl, by cbv⟩, fun h => ?_⟩
  have hops : (ClassStep.declared acronymSteps).operationsOf ⟨3, "G"⟩ =
      .ok [⟨"get_url", RecordTag.of 1 "GetUrl" none [], .plain .null, false⟩,
        ⟨"get_url", RecordTag.of 2 "GetURL" none [], .plain .null, false⟩] := by cbv
  exact absurd (h _ hops) (by decide)

end Registry

end RestContract

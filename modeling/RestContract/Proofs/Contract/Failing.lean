import RestContract.Proofs.Contract.Joining

/-!
# Declarations that fail

A declaration whose arguments are refused writes nothing. After that it writes step by step, and
what it has written stays when a later check fails: a class that cannot be bound keeps the new
declaration, and a group that cannot bind one of its members stays a declared group, which the
classes before that member have joined. So a declaration that fails leaves no trace exactly when
it wrote nothing yet, or when its class had the same declaration before.
-/

namespace RestContract

/-- The declaration that arguments make of a class. -/
def EndpointArguments.declarationOf (args : EndpointArguments) (method : Method)
    (c : ContractClass) : EndpointDeclaration where
  name := .text c.tag.name
  method := .text method.name
  path := args.path
  fields := c.declaredFields
  output := args.output
  streaming := args.streaming
  checkPath := args.checkPath && c.resolver.isNone
  resolver := none

namespace Registry

/-- Two registries say the same of every class: whether it is declared and how, its members and
its classes, and the declaration from which a group would bind it. -/
def Agrees (r r' : Registry) : Prop :=
  (∀ key, r'.contract? key = r.contract? key) ∧ ∀ key, r'.group? key = r.group? key

/-- A registry agrees with itself. -/
theorem Agrees.refl (r : Registry) : r.Agrees r := ⟨fun _ => rfl, fun _ => rfl⟩

end Registry

/-! ## Where declarations begin to write -/

/-- An outcome that gives something is that. -/
theorem Outcome.eq_ok_of_toOption {o : Outcome α} {a : α} (h : o.toOption = some a) :
    o = .ok a := by
  cases o with
  | error e => cases h
  | ok b => exact congrArg Except.ok (Option.some.inj h)

namespace ClassStep

variable {r r' r₀ : Registry} {f : Failure}

/-- The registry after the first writing of a declaration, when its arguments are accepted: a class
has its new declaration, a group is a new one without members. -/
def begun? (r : Registry) : ClassStep → Option Registry
  | .endpoint args (some key) => do
    let method ← (Method.ofValue args.method).toOption
    let _ ← args.path.asText?
    let entry ← r.contract? key
    some (r.setContract key
      { entry with declaration := some (args.declarationOf method entry.contract) })
  | .group path auth (some tag) _ => do
    let _ ← path.asText?
    let auth ← (Auth.ofValue auth).toOption
    let start ← (GroupDeclaration.start ⟨.text tag.name, path, .member auth.member, []⟩
      r.nextKey).toOption
    let entry ← r.group? tag.key
    some (({ r with nextKey := r.nextKey + 1 } : Registry).setGroup tag.key
      { entry with schema := some start, contracts := [] })
  | _ => none

/-- The declaration of an endpoint begins with the class, which keeps everything else. -/
theorem begun?_endpoint_eq_some {args : EndpointArguments} {key : Nat}
    (h : begun? r (.endpoint args (some key)) = some r₀) :
    ∃ method entry, Method.ofValue args.method = .ok method ∧ r.contract? key = some entry ∧
      r₀ = r.setContract key
        { entry with declaration := some (args.declarationOf method entry.contract) } := by
  obtain ⟨method, hmethod, h⟩ := Option.bind_eq_some_iff.mp h
  obtain ⟨_, -, h⟩ := Option.bind_eq_some_iff.mp h
  obtain ⟨entry, hentry, h⟩ := Option.bind_eq_some_iff.mp h
  exact ⟨method, entry, Outcome.eq_ok_of_toOption hmethod, hentry, (Option.some.inj h).symm⟩

/-- The declaration of a group begins with the group, new and without members. -/
theorem begun?_group_eq_some {path auth : Value} {tag : GroupTag} {members : List Nat}
    (h : begun? r (.group path auth (some tag) members) = some r₀) :
    ∃ a g entry, Auth.ofValue auth = .ok a ∧
      GroupDeclaration.start ⟨.text tag.name, path, .member a.member, []⟩ r.nextKey = .ok g ∧
      r.group? tag.key = some entry ∧
      r₀ = ({ r with nextKey := r.nextKey + 1 } : Registry).setGroup tag.key
        { entry with schema := some g, contracts := [] } := by
  obtain ⟨_, -, h⟩ := Option.bind_eq_some_iff.mp h
  obtain ⟨a, ha, h⟩ := Option.bind_eq_some_iff.mp h
  obtain ⟨g, hg, h⟩ := Option.bind_eq_some_iff.mp h
  obtain ⟨entry, hentry, h⟩ := Option.bind_eq_some_iff.mp h
  exact ⟨a, g, entry, Outcome.eq_ok_of_toOption ha, Outcome.eq_ok_of_toOption hg, hentry,
    (Option.some.inj h).symm⟩

end ClassStep

namespace Declaring

open ClassStep (begun?)

variable {r r₀ r' : Registry} {f : Failure}

/-- Taking a key gives it out. -/
theorem run_fresh (r : Registry) :
    fresh.run.run r = (.ok r.nextKey, { r with nextKey := r.nextKey + 1 }) := rfl

/-- After its first writing the declaration of an endpoint binds the class. -/
theorem run_declareEndpoint (args : EndpointArguments) (target : Option Nat) (r : Registry) :
    (∃ f, begun? r (.endpoint args target) = none ∧
      (declareEndpoint args target).run.run r = (.error f, r)) ∨
      ∃ key r₀, target = some key ∧ begun? r (.endpoint args target) = some r₀ ∧
        (declareEndpoint args target).run.run r = (bind key args.group).run.run r₀ := by
  unfold declareEndpoint
  simp only [run_bind, run_lift]
  cases hmethod : Method.ofValue args.method with
  | error f =>
    refine .inl ⟨f, ?_, rfl⟩
    cases target <;> simp [begun?, hmethod, Except.toOption]
  | ok method =>
    cases hpath : args.path.asText? with
    | none =>
      refine .inl ⟨_, ?_, rfl⟩
      cases target <;> simp [begun?, hmethod, hpath, Except.toOption]
    | some path =>
      cases target with
      | none => exact .inl ⟨_, rfl, rfl⟩
      | some key =>
        cases hentry : r.contract? key with
        | none =>
          refine .inl ⟨.refuse .notContract, ?_, ?_⟩
          · simp [begun?, hmethod, hpath, hentry, Except.toOption]
          · simp only [Option.isNone_some, Bool.false_eq_true, if_false, run_bind, run_get,
              Option.bind_some, hentry, Option.map_none]
            rfl
        | some entry =>
          refine .inr ⟨key, r.setContract key
            { entry with declaration := some (args.declarationOf method entry.contract) }, rfl,
            ?_, ?_⟩
          · simp [begun?, hmethod, hpath, hentry, Except.toOption]
          · simp only [Option.isNone_some, Bool.false_eq_true, if_false, run_bind, run_get,
              Option.bind_some, hentry, Option.map_some, run_onContract]
            rfl

private theorem eq_error_of_run_discard {x : Declaring α}
    (h : (do let _ ← x; pure () : Declaring Unit).run.run r = (.error f, r')) :
    x.run.run r = (.error f, r') := by
  rw [run_bind] at h
  rcases hrun : x.run.run r with ⟨f' | a, r₁⟩
  · rw [hrun] at h
    obtain ⟨hf, rfl⟩ := Prod.mk.inj h
    rw [Except.error.inj hf]
  · rw [hrun] at h
    cases (Prod.mk.inj h).1

/-- No class can be adopted by a group class that is not known. -/
theorem run_forM_adopt_of_unknown {tag : GroupTag} (h : r.group? tag.key = none)
    (keys : List Nat) : ((keys.forM (adopt tag)).run.run r).2 = r := by
  induction keys with
  | nil => rfl
  | cons key rest ih =>
    rw [List.forM_eq_forM] at ih ⊢
    rw [List.forM_cons, run_bind]
    by_cases hk : r.hasDeclaration key = true
    · rw [run_adopt tag hk]
      rcases bind_cases key (some tag) r with ⟨f, hrun⟩ | ⟨e, r', -, hbound⟩
      · rw [hrun]
      · cases hbound with
        | member hgroup _ _ _ _ _ =>
          rw [h] at hgroup
          cases hgroup
    · rw [run_adopt_of_not tag (by simpa using hk)]
      exact ih

/-- A declaration of a group that is refused before its first writing may have taken a key. -/
theorem run_declareGroup_of_refused {path auth : Value} {target : Option GroupTag}
    {members : List Nat} (h : begun? r (.group path auth target members) = none) :
    ((declareGroup path auth target members).run.run r).2 = r ∨
      ((declareGroup path auth target members).run.run r).2 =
        { r with nextKey := r.nextKey + 1 } := by
  unfold declareGroup
  cases hpath : path.asText? with
  | none => exact .inl rfl
  | some _ =>
    simp only [Option.isNone_some, Bool.false_eq_true, if_false, run_bind, run_lift]
    cases hauth : Auth.ofValue auth with
    | error f => exact .inl rfl
    | ok a =>
      cases target with
      | none => exact .inl rfl
      | some tag =>
        simp only [run_bind, run_fresh, run_lift]
        cases hstart : GroupDeclaration.start ⟨.text tag.name, path, .member a.member, []⟩
          r.nextKey with
        | error f => exact .inr rfl
        | ok g =>
          have hunknown :
              ({ r with nextKey := r.nextKey + 1 } : Registry).group? tag.key = none := by
            cases hgroup : r.group? tag.key with
            | none => exact hgroup
            | some entry => simp [begun?, hpath, hauth, hstart, hgroup, Except.toOption] at h
          have hadopted := run_forM_adopt_of_unknown hunknown members
          simp only [run_onGroup, hunknown]
          rcases hrun : (members.forM (adopt tag)).run.run
            { r with nextKey := r.nextKey + 1 } with ⟨_ | _, r'⟩
          all_goals
            rw [hrun] at hadopted
            obtain rfl := hadopted
          · exact .inr rfl
          · right
            simp only [run_ask]

/-- So it leaves every class. -/
theorem agrees_declareGroup {path auth : Value} {target : Option GroupTag} {members : List Nat}
    (h : begun? r (.group path auth target members) = none) :
    r.Agrees ((declareGroup path auth target members).run.run r).2 := by
  rcases run_declareGroup_of_refused h with hrun | hrun
  · rw [hrun]
    exact .refl r
  · rw [hrun]
    exact ⟨fun _ => rfl, fun _ => rfl⟩

/-- After its first writing the declaration of a group binds its members one after the other. -/
theorem run_declareGroup {path auth : Value} {tag : GroupTag} {members : List Nat}
    (h : begun? r (.group path auth (some tag) members) = some r₀) :
    (declareGroup path auth (some tag) members).run.run r =
      (do members.forM (adopt tag); ask (·.groupOf tag) : Declaring GroupSchema).run.run r₀ := by
  have hpath : path.asText?.isNone = false := by
    obtain ⟨text, htext, -⟩ := Option.bind_eq_some_iff.mp h
    rw [htext, Option.isNone_some]
  obtain ⟨a, g, entry, hauth, hstart, hgroup, rfl⟩ := ClassStep.begun?_group_eq_some h
  have hknown : ({ r with nextKey := r.nextKey + 1 } : Registry).group? tag.key = some entry :=
    hgroup
  unfold declareGroup
  simp only [hpath, hauth, Bool.false_eq_true, if_false, run_bind, run_lift, run_fresh, hstart,
    run_onGroup, hknown]

end Declaring

/-! ## What remains of a failure -/

namespace ClassStep

open Registry (Joined)

/-- What a declaration leaves that fails in a registry. -/
inductive Remains (r : Registry) (f : Failure) : ClassStep → Registry → Prop where
  /-- Refused arguments leave everything as it was. -/
  | refused {step : ClassStep} {r' : Registry} : begun? r step = none → r.Agrees r' →
      Remains r f step r'
  /-- A class that cannot be bound keeps the new declaration. -/
  | endpoint {args : EndpointArguments} {key : Nat} {r₀ : Registry} :
      begun? r (.endpoint args (some key)) = some r₀ →
      (Declaring.bind key args.group).run.run r₀ = (.error f, r₀) →
      Remains r f (.endpoint args (some key)) r₀
  /-- A group that refuses one of its members stays a new group, and the declared classes before
  that one have joined it. -/
  | group {path auth : Value} {tag : GroupTag} {done rest : List Nat} {key : Nat} {r₀ r' : Registry}
      {name : String} {g : GroupSchema} {joined : List EndpointSchema} {entry : ContractEntry}
      {d : EndpointDeclaration} :
      begun? r (.group path auth (some tag) (done ++ key :: rest)) = some r₀ →
      g.header.key = r.nextKey →
      r₀.Joined tag name g (done.filter r.hasDeclaration) joined r' →
      r.contract? key = some entry → entry.declaration = some d →
      ({ g with members := joined } : GroupSchema).enroll d = .error f →
      Remains r f (.group path auth (some tag) (done ++ key :: rest)) r'

variable {r r₀ r' : Registry} {f : Failure} {step : ClassStep}

/-- The declaration of an endpoint that fails leaves that. -/
theorem remains_endpoint {args : EndpointArguments} {target : Option Nat}
    (h : (declareEndpoint args target).run.run r = (.error f, r')) :
    Remains r f (.endpoint args target) r' := by
  rcases Declaring.run_declareEndpoint args target r with
    ⟨f', hnone, hrun⟩ | ⟨key, r₀, rfl, hbegun, hrun⟩
  · rw [hrun] at h
    obtain ⟨-, rfl⟩ := Prod.mk.inj h
    exact .refused hnone (.refl r)
  · rw [hrun] at h
    rcases Declaring.bind_cases key args.group r₀ with ⟨f', hbind⟩ | ⟨e, r₁, hbind, -⟩
    · obtain ⟨hf, rfl⟩ := Prod.mk.inj (hbind.symm.trans h)
      exact .endpoint hbegun h
    · rw [hbind] at h
      cases (Prod.mk.inj h).1

/-- The declaration of a group that fails leaves that. -/
theorem remains_group {path auth : Value} {target : Option GroupTag} {members : List Nat}
    (h : (declareGroup path auth target members).run.run r = (.error f, r')) :
    Remains r f (.group path auth target members) r' := by
  cases hbegun : begun? r (.group path auth target members) with
  | none =>
    have hagrees := Declaring.agrees_declareGroup hbegun
    rw [h] at hagrees
    exact .refused hbegun hagrees
  | some r₀ =>
    cases target with
    | none => cases hbegun
    | some tag =>
      obtain ⟨a, g, entry, -, hstart, -, hr₀⟩ := begun?_group_eq_some hbegun
      obtain ⟨-, -, hkey, hempty⟩ := GroupDeclaration.start_eq_ok hstart
      have hfirst : r₀.Joined tag entry.name g [] [] r₀ := by
        rw [hr₀]
        exact .start hempty
      -- Starting the group changes no contract class.
      have hclasses : r₀.contract? = r.contract? := by
        rw [hr₀]
        rfl
      have hdeclared : r₀.hasDeclaration = r.hasDeclaration := by
        funext key
        rw [Registry.hasDeclaration, hclasses, Registry.hasDeclaration]
      rw [Declaring.run_declareGroup hbegun, Declaring.run_bind] at h
      rcases Declaring.forM_adopt_cases hfirst members with
        ⟨r₁, joined, hrun, hjoined⟩ |
        ⟨f', r₁, done, key, rest, joined, hrun, rfl, hjoined, refused, d, hrefused, hd, henroll⟩
      · have hgroup := Declaring.groupOf_eq_ok.mpr ⟨_, hjoined.group, rfl⟩
        simp only [hrun, Declaring.run_ask, hgroup] at h
        cases (Prod.mk.inj h).1
      · rw [hrun] at h
        obtain ⟨hf, rfl⟩ := Prod.mk.inj h
        obtain rfl := Except.error.inj hf
        rw [hdeclared, List.nil_append] at hjoined
        exact .group hbegun hkey hjoined (hclasses ▸ hrefused) hd henroll

/-- Whatever declaration fails, in whatever registry, leaves that. -/
theorem remains_of_failed (h : step.run.run.run r = (.error f, r')) : Remains r f step r' := by
  cases step with
  | contract name parent fields resolver => cases (Prod.mk.inj h).1
  | plain name => cases (Prod.mk.inj h).1
  | endpoint args target => exact remains_endpoint (Declaring.eq_error_of_run_discard h)
  | group path auth target members => exact remains_group (Declaring.eq_error_of_run_discard h)

/-- The declaration of an endpoint says of its class what had been declared of it already. -/
def Repeats (r : Registry) : ClassStep → Prop
  | .endpoint args (some key) => ∃ method entry, Method.ofValue args.method = .ok method ∧
      r.contract? key = some entry ∧
      entry.declaration = some (args.declarationOf method entry.contract)
  | _ => False

/-- A new declaration of a class is a trace unless it is the one that the class had. -/
theorem agrees_endpoint_iff {args : EndpointArguments} {key : Nat}
    (h : begun? r (.endpoint args (some key)) = some r₀) :
    r.Agrees r₀ ↔ Repeats r (.endpoint args (some key)) := by
  obtain ⟨method, entry, hmethod, hentry, rfl⟩ := begun?_endpoint_eq_some h
  constructor
  · intro hagrees
    refine ⟨method, entry, hmethod, hentry, ?_⟩
    have hkept := hagrees.1 key
    rw [Registry.contract?_setContract, if_pos rfl, hentry] at hkept
    exact (congrArg (·.declaration) (Option.some.inj hkept)).symm
  · rintro ⟨method', entry', hmethod', hentry', hsame⟩
    obtain rfl := Except.ok.inj (hmethod.symm.trans hmethod')
    obtain rfl := Option.some.inj (hentry.symm.trans hentry')
    refine ⟨fun other => ?_, fun _ => rfl⟩
    rw [Registry.contract?_setContract, ← hsame]
    split
    next hother => rw [hother, hentry]
    next => rfl

/-- A failure leaves no trace exactly when nothing had been written yet, or the class had the same
declaration before. -/
theorem Remains.agrees_iff (h : Remains r f step r') (hlinked : r.Linked) :
    r.Agrees r' ↔ begun? r step = none ∨ Repeats r step := by
  cases h with
  | refused hnone hagrees => exact iff_of_true hagrees (.inl hnone)
  | endpoint hbegun _ =>
    rw [agrees_endpoint_iff hbegun, hbegun]
    simp
  | @group _ _ tag _ _ _ _ _ _ g joined _ _ hbegun hkey hjoined _ _ _ =>
    refine iff_of_false (fun hagrees => ?_) (by simp [hbegun, Repeats])
    -- The group is known by a key that no group had.
    have hold := (hagrees.2 tag.key).symm.trans hjoined.group
    have hknown := hlinked.headers tag.key _ { g with members := joined } hold rfl
    have hnew : g.header.key < r.nextKey := hknown
    omega

/-- A declaration that fails, after whatever declarations, leaves what it had written: nothing when
its arguments were refused, the new declaration of the class, or the new group with the declared
classes before the one that was refused. It leaves no trace exactly when its arguments were refused
or the class had the same declaration before. -/
theorem remains_declared {steps : List ClassStep}
    (h : step.run.run.run (declared steps) = (.error f, r')) :
    Remains (declared steps) f step r' ∧
      ((declared steps).Agrees r' ↔
        begun? (declared steps) step = none ∨ Repeats (declared steps) step) :=
  ⟨remains_of_failed h, (remains_of_failed h).agrees_iff (Registry.linked_declared steps)⟩

/-- A class is declared as an endpoint, and a plain class is defined. -/
def alikeSteps : List ClassStep :=
  [.contract "A" none [] none, .plain "G", .endpoint (Registry.readingArguments "/a") (some 1)]

/-- The endpoint is to be a member of the plain class twice. -/
def alikeGroup : ClassStep :=
  .group (.text "/g") (.text "required") (some ⟨2, "G"⟩) [1, 1]

/-- The failure of the second member. -/
def alikeFailure : Failure := .refuse (.takenMember (.text "G") (.text "A"))

/-- The endpoint that the class is after the failure. -/
def alikeSchema : EndpointSchema :=
  ⟨.text "A", .get, "/a", [], .plain .null, some ⟨3, .text "G", "/g", .required⟩, false, none⟩

/-- The registry after the failure. -/
def alikeRegistry : Registry where
  contracts := [(1, {
    contract := ⟨RecordTag.of 1 "A" none [], [], none⟩
    declaration := some
      ⟨.text "A", .text "GET", .text "/a", [], .plain .null, false, true, none⟩
    schema := some alikeSchema })]
  groups := [(2, ⟨"G", some ⟨⟨3, .text "G", "/g", .required⟩, [alikeSchema]⟩, [1]⟩)]
  nextKey := 4

/-- The second member is refused. -/
theorem run_alikeGroup :
    alikeGroup.run.run.run (declared alikeSteps) = (.error alikeFailure, alikeRegistry) := by cbv

/-- What the failure leaves. -/
theorem remains_alikeGroup :
    alikeGroup.run.run.run (declared alikeSteps) = (.error alikeFailure, alikeRegistry) ∧
      Remains (declared alikeSteps) alikeFailure alikeGroup alikeRegistry ∧
        ((declared alikeSteps).Agrees alikeRegistry ↔
          begun? (declared alikeSteps) alikeGroup = none ∨
            Repeats (declared alikeSteps) alikeGroup) :=
  ⟨run_alikeGroup, remains_declared run_alikeGroup⟩

/-- The failure leaves a trace: the plain class is a group now, and the class is its member. -/
theorem not_agrees_alikeGroup :
    alikeGroup.run.run.run (declared alikeSteps) = (.error alikeFailure, alikeRegistry) ∧
      ¬(declared alikeSteps).Agrees alikeRegistry := by
  refine ⟨run_alikeGroup, fun hagrees => ?_⟩
  have hbefore : (declared alikeSteps).group? 2 = some ⟨"G", none, []⟩ := by cbv
  have hkept := (hagrees.2 2).trans hbefore
  have hgroup : alikeRegistry.group? 2 =
    some ⟨"G", some ⟨⟨3, .text "G", "/g", .required⟩, [alikeSchema]⟩, [1]⟩ := rfl
  rw [hgroup] at hkept
  cases congrArg (·.schema) (Option.some.inj hkept)

end ClassStep

end RestContract

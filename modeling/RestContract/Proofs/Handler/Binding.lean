import RestContract.Proofs.Handler.Operations
import RestContract.Proofs.Route.Mounting

/-!
# What a handler is asked for and what is taken from it

The check of a handler goes through the contracts of a group and asks for an operation for each: it
names those that are lacking, in the order of the contracts. Registering goes through them again and
takes a function for each. The table grows by just the routes that join each contract with the
function of its operation, wherever in the table they end up.
-/

namespace RestContract

variable {m : Type → Type}

/-! ## What a handler provides -/

/-- A function of a handler can serve as an operation: it runs asynchronously, or generates the
events of an endpoint that streams. -/
def Handler.Implements (h : Handler m) (name : String) (streaming : Bool)
    (run : HandlerFunction m) : Prop :=
  ∃ kind, h.part? name = some (.function kind run) ∧
    (kind = .async ∨ kind = .generator ∧ streaming = true)

private theorem Handler.provides_iff {h : Handler m} {op : Operation} :
    h.provides op = true ↔ ∃ run, h.Implements op.name op.streaming run := by
  simp only [provides, Implements]
  cases h.part? op.name with
  | none => simp
  | some part =>
    cases part with
    | other => simp [HandlerPart.serves]
    | function kind run => cases kind <;> simp [HandlerPart.serves]

namespace Registry.Contract

variable {r : Registry}

/-- A handler has no function that can serve as the operation for a contract. -/
def LackedBy (c : r.Contract) (h : Handler m) : Prop :=
  ∀ run, ¬h.Implements c.operationName c.schema.streaming run

/-- The check of a handler decides what it lacks. -/
theorem lackedBy_iff {c : r.Contract} {h : Handler m} :
    c.LackedBy h ↔ h.provides c.operation = false := by
  rw [← Bool.not_eq_true, Handler.provides_iff, not_exists]
  rfl

instance (c : r.Contract) (h : Handler m) : Decidable (c.LackedBy h) :=
  decidable_of_iff _ lackedBy_iff.symm

/-- A route joins a contract with a function of a handler that serves as its operation. -/
structure JoinedBy (c : r.Contract) (h : Handler m) (route : Route m) : Prop where
  /-- The endpoint of the route is that of the contract. -/
  schema_eq : route.schema = c.schema
  /-- The input is an instance of the class. -/
  source_eq : route.source = .contract c.tag
  /-- The function is what the handler has by the name of the operation. -/
  implements : h.Implements c.operationName c.schema.streaming route.handler

private theorem exists_routeOf [Monad m] {c : r.Contract} {h : Handler m} (hc : ¬c.LackedBy h) :
    ∃ route, Mounting.routeOf r h c.operation = .ok route ∧ c.JoinedBy h route := by
  obtain ⟨run, kind, hpart, hkind⟩ := not_forall_not.mp hc
  refine ⟨⟨c.schema, .contract c.tag, run⟩, ?_, rfl, rfl, kind, hpart, hkind⟩
  rw [Mounting.routeOf, operation, c.schemaOf_tag, hpart]
  rfl

/-- The contracts of which a handler lacks none have routes, each joined with its function. -/
theorem exists_routes [Monad m] {contracts : List r.Contract} {h : Handler m}
    (hall : ∀ c ∈ contracts, ¬c.LackedBy h) :
    ∃ routes, (contracts.map operation).map (Mounting.routeOf r h) = routes.map .ok ∧
      List.Forall₂ (fun c route => c.JoinedBy h route) contracts routes := by
  induction contracts with
  | nil => exact ⟨[], rfl, .nil⟩
  | cons c rest ih =>
    obtain ⟨hc, hrest⟩ := List.forall_mem_cons.mp hall
    obtain ⟨route, hroute, hjoined⟩ := exists_routeOf hc
    obtain ⟨routes, hroutes, hjoin⟩ := ih hrest
    exact ⟨route :: routes, by simp only [List.map_cons, hroute, hroutes], .cons hjoined hjoin⟩

end Registry.Contract

/-- The contracts of a group stand for its members, one after the other. -/
def GroupSchema.Lists {r : Registry} (g : GroupSchema) (contracts : List r.Contract) : Prop :=
  List.Forall₂ Registry.Contract.StandsFor contracts g.members

namespace Registry

variable {r : Registry}

/-- After any declarations the classes of a group are contracts, listed by it. -/
theorem exists_contractsOf {steps : List ClassStep} {tag : GroupTag} {g : GroupSchema}
    (hg : (ClassStep.declared steps).groupOf tag = .ok g) :
    ∃ contracts : List (ClassStep.declared steps).Contract,
      (ClassStep.declared steps).contractsOf tag = .ok (contracts.map (·.tag)) ∧
        g.Lists contracts := by
  have hlinked := linked_declared steps
  obtain ⟨group, hgroup, hschema⟩ := Declaring.groupOf_eq_ok.mp hg
  obtain ⟨contracts, htags, hlists⟩ := exists_contracts hlinked (named_declared steps)
    (hlinked.members tag.key group g hgroup hschema)
  refine ⟨contracts, ?_, hlists⟩
  rw [contractsOf, hg, hgroup, ← htags]
  rfl

/-- The operations of a group are those for its contracts. -/
theorem operationsOf_of_contractsOf {tag : GroupTag} {contracts : List r.Contract}
    (h : r.contractsOf tag = .ok (contracts.map (·.tag))) :
    r.operationsOf tag = .ok (contracts.map Contract.operation) := by
  rw [operationsOf, h]
  exact Contract.mapM_operationOf contracts

end Registry

/-! ## Checking -/

/-- The failure for a handler that lacks operations for some contracts of a group. -/
def Handler.incomplete {r : Registry} (tag : GroupTag) (lacked : List r.Contract) : Failure :=
  .contract (.incompleteHandler tag.name (lacked.map (·.operationName)))

/-- The check of a handler for a group refuses it for what it lacks. -/
theorem Handler.check_of_contractsOf {r : Registry} {tag : GroupTag} {contracts : List r.Contract}
    (hcontracts : r.contractsOf tag = .ok (contracts.map (·.tag))) (h : Handler m) :
    h.check r tag =
      if ∃ c ∈ contracts, c.LackedBy h then
        .error (incomplete tag (contracts.filter fun c => c.LackedBy h))
      else .ok () := by
  have hlacked : (contracts.map Registry.Contract.operation).filter (fun op => !h.provides op) =
      (contracts.filter fun c => c.LackedBy h).map Registry.Contract.operation := by
    rw [List.filter_map]
    refine congrArg _ (List.filter_congr fun c _ => ?_)
    simp only [Function.comp_apply, Registry.Contract.lackedBy_iff]
    cases h.provides c.operation <;> rfl
  have hnone : (∃ c ∈ contracts, c.LackedBy h) ↔ (contracts.filter fun c => c.LackedBy h) ≠ [] := by
    simp [List.filter_eq_nil_iff]
  simp only [check, Registry.operationsOf_of_contractsOf hcontracts, hnone]
  change (if _ then _ else _) = _
  rw [hlacked]
  cases contracts.filter fun c => c.LackedBy h with
  | nil => rfl
  | cons c rest =>
    simp [incomplete, Registry.Contract.operation, Function.comp_def]

/-! ## Binding -/

/-- Registering a group that succeeds adds the routes that join its contracts with the functions of
the handler. -/
theorem Router.routes_of_mountGroup [Monad m] {r : Registry} {tag : GroupTag}
    {contracts : List r.Contract} (hcontracts : r.contractsOf tag = .ok (contracts.map (·.tag)))
    {h : Handler m} {t t' : Router m} (hmount : (mountGroup r tag h).run.run t = (.ok (), t')) :
    ∃ routes, List.Forall₂ (fun c route => c.JoinedBy h route) contracts routes ∧
      t'.routes.Perm (t.routes ++ routes) := by
  rw [Mounting.run_mountGroup, Mounting.groupAttempts, Handler.check_of_contractsOf hcontracts,
    Registry.operationsOf_of_contractsOf hcontracts] at hmount
  split_ifs at hmount with hlacked
  · cases (Prod.mk.inj hmount).1
  · have hall : ∀ c ∈ contracts, ¬c.LackedBy h := fun c hc hlack => hlacked ⟨c, hc, hlack⟩
    obtain ⟨routes, hroutes, hjoined⟩ := Registry.Contract.exists_routes hall
    obtain ⟨added, hadded, haccepted, rfl⟩ := follow_eq_ok hmount
    obtain rfl : routes = added :=
      List.map_injective_iff.mpr (fun _ _ => Except.ok.inj) (hroutes.symm.trans hadded)
    exact ⟨routes, hjoined, perm_run haccepted⟩

/-- After any declarations the check of a handler for a group fails exactly when it lacks an
operation for one of the contracts of the group, and then for the names of all that it lacks, in the
order of the contracts. Registering the group that succeeds adds to the table just one route for
each of its contracts, which joins it with the function that the handler has by the name of its
operation. -/
theorem Registry.checked_and_bound [Monad m] {steps : List ClassStep} {tag : GroupTag}
    {g : GroupSchema} (hg : (ClassStep.declared steps).groupOf tag = .ok g) :
    ∃ contracts : List (ClassStep.declared steps).Contract,
      (ClassStep.declared steps).contractsOf tag = .ok (contracts.map (·.tag)) ∧
      g.Lists contracts ∧ ∀ h : Handler m,
        (∀ f, h.check (ClassStep.declared steps) tag = .error f ↔
          (∃ c ∈ contracts, c.LackedBy h) ∧
            f = Handler.incomplete tag (contracts.filter fun c => c.LackedBy h)) ∧
        ∀ t t', (Router.mountGroup (ClassStep.declared steps) tag h).run.run t = (.ok (), t') →
          ∃ routes, List.Forall₂ (fun c route => c.JoinedBy h route) contracts routes ∧
            t'.routes.Perm (t.routes ++ routes) := by
  obtain ⟨contracts, hcontracts, hlists⟩ := exists_contractsOf hg
  refine ⟨contracts, hcontracts, hlists, fun h => ⟨fun f => ?_, fun t t' hmount => ?_⟩⟩
  · rw [Handler.check_of_contractsOf hcontracts]
    split_ifs with hlacked
    · rw [and_iff_right hlacked, Except.error.injEq]
      exact eq_comm
    · exact iff_of_false nofun fun hf => hlacked hf.1
  · exact Router.routes_of_mountGroup hcontracts hmount

/-- A class that streams and one that does not become the members of a group. -/
def feedSteps : List ClassStep :=
  [.contract "WatchFeed" none [] none, .contract "GetItem" none [] none, .plain "G",
    .endpoint (⟨.text "GET", .text "/feed", .plain .null, none, true, true⟩) (some 1),
    .endpoint (Registry.readingArguments "/feed/latest") (some 2),
    .group (.text "/g") (.text "required") (some ⟨3, "G"⟩) [1, 2]]

/-- What the members of this group have in common. -/
def feedHeader : GroupHeader := ⟨4, .text "G", "/g", .required⟩

/-- The member that streams. -/
def watchFeed : EndpointSchema :=
  ⟨.text "WatchFeed", .get, "/feed", [], .plain .null, some feedHeader, true, none⟩

/-- The other member. -/
def getItem : EndpointSchema :=
  ⟨.text "GetItem", .get, "/feed/latest", [], .plain .null, some feedHeader, false, none⟩

private theorem groupOf_feedSteps :
    (ClassStep.declared feedSteps).groupOf ⟨3, "G"⟩ = .ok ⟨feedHeader, [watchFeed, getItem]⟩ := by
  cbv

/-- A handler whose function for the first member generates events. -/
def feedHandler (kind : FunctionKind) : Handler Id :=
  ⟨"H", none, [("watch_feed", .function .generator fun _ _ => .ok (.events [])),
    ("get_item", .function kind fun _ _ => .ok (.value .null))], true⟩

/-- Generated events do not serve the second member; an asynchronous function does, and its route is
the first of the table then. -/
theorem checked_and_bound_feedSteps :
    (ClassStep.declared feedSteps).groupOf ⟨3, "G"⟩ = .ok ⟨feedHeader, [watchFeed, getItem]⟩ ∧
      (feedHandler .generator).check (ClassStep.declared feedSteps) ⟨3, "G"⟩ =
        .error (.contract (.incompleteHandler "G" ["get_item"])) ∧
      (Router.mountGroup (ClassStep.declared feedSteps) ⟨3, "G"⟩ (feedHandler .async)).run.run
          (Router.empty none) =
        (.ok (), ⟨none, .json,
          [⟨getItem, .contract (RecordTag.of 2 "GetItem" none []), fun _ _ => .ok (.value .null)⟩,
            ⟨watchFeed, .contract (RecordTag.of 1 "WatchFeed" none []),
              fun _ _ => .ok (.events [])⟩]⟩) ∧
      ∃ contracts : List (ClassStep.declared feedSteps).Contract,
        (ClassStep.declared feedSteps).contractsOf ⟨3, "G"⟩ = .ok (contracts.map (·.tag)) ∧
        GroupSchema.Lists ⟨feedHeader, [watchFeed, getItem]⟩ contracts ∧ ∀ h : Handler Id,
          (∀ f, h.check (ClassStep.declared feedSteps) ⟨3, "G"⟩ = .error f ↔
            (∃ c ∈ contracts, c.LackedBy h) ∧
              f = Handler.incomplete ⟨3, "G"⟩ (contracts.filter fun c => c.LackedBy h)) ∧
          ∀ t t', (Router.mountGroup (ClassStep.declared feedSteps) ⟨3, "G"⟩ h).run.run t =
              (.ok (), t') →
            ∃ routes, List.Forall₂ (fun c route => c.JoinedBy h route) contracts routes ∧
              t'.routes.Perm (t.routes ++ routes) :=
  ⟨groupOf_feedSteps, by cbv, by cbv, Registry.checked_and_bound groupOf_feedSteps⟩

end RestContract

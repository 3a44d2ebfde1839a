import RestContract.Proofs.Route.Specific
import RestContract.Proofs.Template.Expression
import RestContract.Proofs.Template.Scan

/-!
# Registering and looking up

A function is registered for an endpoint or for a contract class, which has to be one. After any
registrations, accepted or refused, a table is in the order of its keys and has no two routes of a
method whose templates are the same up to the names of their holes. A further one is refused as
taken exactly when it would break this, and whatever is refused leaves the table as it is. A path
leads to the route with the least key among those of the method that it matches.
-/

namespace RestContract

variable {m : Type → Type} {σ α β : Type}

namespace Registering

/-- A step after another one runs on what the first one leaves, unless that fails. -/
theorem run_bind (x : Registering σ α) (f : α → Registering σ β) (s : σ) :
    (x >>= f).run.run s =
      match x.run.run s with
      | (.ok a, s') => (f a).run.run s'
      | (.error e, s') => (.error e, s') := by
  rcases h : x.run.run s with ⟨_ | _, s'⟩ <;> simp [ExceptT.run_bind, StateT.run_bind, h] <;> rfl

/-- A given result registers nothing. -/
theorem run_lift (o : Outcome α) (s : σ) :
    (lift o : Registering σ α).run.run s = (o, s) := by
  cases o <;> rfl

/-- What there is so far is at hand. -/
theorem run_get (s : σ) : (get : Registering σ σ).run.run s = (.ok s, s) := rfl

end Registering

/-- A failure for arguments that were refused. -/
def Failure.IsArgumentFault (f : Failure) : Prop :=
  ∃ e, f = .contract e ∧ e.kindNames.head? = some "InvalidArguments"

private theorem isArgumentFault_takenRoute (method : Method) (template : String) :
    (Failure.refuse (.takenRoute method template)).IsArgumentFault :=
  ⟨_, rfl, rfl⟩

private theorem not_isArgumentFault_undeclaredEndpoint (name : String) :
    ¬(Failure.refuse (.undeclaredEndpoint name)).IsArgumentFault := by
  rintro ⟨e, he, hkind⟩
  obtain rfl : ContractError.declaration (.undeclaredEndpoint name) = e := by
    rw [Failure.refuse] at he
    exact Failure.contract.inj he
  have hname : "InvalidDeclarationShape" = "InvalidArguments" := Option.some.inj hkind
  exact absurd hname (by decide)

/-- Two routes are for one method, and their templates are the same up to names. -/
def Route.Duplicates (r s : Route m) : Prop :=
  r.schema.method = s.schema.method ∧ Template.Renames r.schema.pathTemplate s.schema.pathTemplate

/-- Routes clash exactly when one is a duplicate of the other one. -/
theorem Route.clashes_iff_duplicates {r s : Route m} : r.clashes s = true ↔ r.Duplicates s := by
  rw [clashes_iff, Duplicates, Template.renames_iff, pattern, pattern]

/-- Routes are duplicates exactly when their templates are compiled to one expression. -/
theorem Route.duplicates_iff_expression {r s : Route m} :
    r.Duplicates s ↔ r.schema.method = s.schema.method ∧
      Template.expression r.pattern = Template.expression s.pattern := by
  rw [Duplicates, Template.renames_iff, Expression.expression_eq_iff, pattern, pattern]

/-- Neither the names of holes nor slashes at the ends tell templates apart. -/
example : (silentRoute (plainSchema "/a/:x")).clashes (silentRoute (plainSchema "a/:y/")) =
    true := by
  cbv

/-- A call that registers a function. -/
inductive Registration (m : Type → Type) where
  /-- For an endpoint. -/
  | endpoint (e : EndpointSchema) (handler : HandlerFunction m)
  /-- For a contract class, with what has been declared so far. -/
  | contract (registry : Registry) (tag : RecordTag) (handler : HandlerFunction m)

namespace Registration

/-- The steps of a call. -/
def steps : Registration m → Registering (Router m) Unit
  | .endpoint e handler => Router.registerEndpoint e handler
  | .contract registry tag handler => Router.registerContract registry tag handler

/-- The route that a call is about. -/
def route : Registration m → Outcome (Route m)
  | .endpoint e handler => .ok ⟨e, .endpoint, handler⟩
  | .contract registry tag handler =>
    (registry.schemaOf tag).map fun e => ⟨e, .contract tag, handler⟩

private theorem not_isArgumentFault_of_route {call : Registration m} {f : Failure}
    (h : call.route = .error f) : ¬f.IsArgumentFault := by
  cases call with
  | endpoint e handler => cases h
  | contract registry tag handler =>
    rw [route, Registry.schemaOf] at h
    split at h
    · cases h
    · obtain rfl := Except.error.inj h
      exact not_isArgumentFault_undeclaredEndpoint tag.name

end Registration

namespace Router

/-- Adds a route to a table, if there is one to add. -/
def enter (t : Router m) (route : Outcome (Route m)) : Outcome Unit × Router m :=
  match route with
  | .error f => (.error f, t)
  | .ok new =>
    match t.register new with
    | .error f => (.error f, t)
    | .ok t' => (.ok (), t')

/-- Registering a function for an endpoint adds its route. -/
theorem run_registerEndpoint (e : EndpointSchema) (handler : HandlerFunction m) (t : Router m) :
    (registerEndpoint e handler).run.run t = t.enter (.ok ⟨e, .endpoint, handler⟩) := by
  simp only [registerEndpoint, Registering.run_bind, Registering.run_get, Registering.run_lift,
    enter]
  cases t.register ⟨e, .endpoint, handler⟩ with
  | error f => rfl
  | ok t' => rfl

/-- Registering a function for a contract class adds the route of its endpoint, if it is one. -/
theorem run_registerContract (registry : Registry) (tag : RecordTag) (handler : HandlerFunction m)
    (t : Router m) :
    (registerContract registry tag handler).run.run t =
      t.enter ((registry.schemaOf tag).map fun e => ⟨e, .contract tag, handler⟩) := by
  simp only [registerContract, Registering.run_bind, Registering.run_get, Registering.run_lift]
  cases registry.schemaOf tag with
  | error f => rfl
  | ok e =>
    simp only [enter, Except.map]
    cases t.register ⟨e, .contract tag, handler⟩ with
    | error f => rfl
    | ok t' => rfl

/-- A call adds the route that it is about. -/
theorem run_steps (call : Registration m) (t : Router m) :
    call.steps.run.run t = t.enter call.route := by
  cases call with
  | endpoint e handler => exact run_registerEndpoint e handler t
  | contract registry tag handler => exact run_registerContract registry tag handler t

/-- What cannot be added leaves a table as it is. -/
theorem enter_eq_error {t t' : Router m} {route : Outcome (Route m)} {f : Failure}
    (h : t.enter route = (.error f, t')) :
    t' = t ∧ (route = .error f ∨ ∃ new, route = .ok new ∧ t.register new = .error f) := by
  cases route with
  | error g =>
    obtain ⟨hf, rfl⟩ := Prod.mk.inj h
    obtain rfl := Except.error.inj hf
    exact ⟨rfl, .inl rfl⟩
  | ok new =>
    rw [enter] at h
    cases hnew : t.register new with
    | error g =>
      rw [hnew] at h
      obtain ⟨hf, rfl⟩ := Prod.mk.inj h
      obtain rfl := Except.error.inj hf
      exact ⟨rfl, .inr ⟨new, rfl, hnew⟩⟩
    | ok added =>
      rw [hnew] at h
      cases (Prod.mk.inj h).1

/-- What can be added is a route for which there is none yet. -/
theorem enter_eq_ok {t t' : Router m} {route : Outcome (Route m)}
    (h : t.enter route = (.ok (), t')) :
    ∃ new, route = .ok new ∧ t.register new = .ok t' ∧ t' = t.attempt new := by
  cases route with
  | error g => cases (Prod.mk.inj h).1
  | ok new =>
    rw [enter] at h
    cases hnew : t.register new with
    | error g =>
      rw [hnew] at h
      cases (Prod.mk.inj h).1
    | ok added =>
      rw [hnew] at h
      obtain ⟨-, rfl⟩ := Prod.mk.inj h
      refine ⟨new, rfl, hnew, ?_⟩
      rw [attempt, hnew]

/-- A table after one more call. -/
theorem enter_snd (t : Router m) (route : Outcome (Route m)) :
    (t.enter route).2 = t.run route.toOption.toList := by
  cases route with
  | error f => rfl
  | ok new =>
    change _ = t.attempt new
    rw [enter, attempt]
    cases t.register new with
    | error f => rfl
    | ok t' => rfl

/-- A table after some calls, accepted or refused. -/
def registered (v : Option (Verifier m)) (serializer : Serializer)
    (calls : List (Registration m)) : Router m :=
  calls.foldl (fun t call => (call.steps.run.run t).2) (empty v serializer)

/-- A table after some calls is one after the registrations of their routes. -/
theorem registered_eq_run (v : Option (Verifier m)) (serializer : Serializer)
    (calls : List (Registration m)) : registered v serializer calls =
      (empty v serializer).run (calls.flatMap fun call => call.route.toOption.toList) := by
  unfold registered
  generalize empty v serializer = t
  induction calls generalizing t with
  | nil => rfl
  | cons call rest ih =>
    rw [List.foldl_cons, ih, run_steps, enter_snd, List.flatMap_cons, run, run, run,
      List.foldl_append]

/-- A route that is refused is a duplicate of one of the table. -/
theorem duplicate_of_register_eq_error {t : Router m} {new : Route m} {f : Failure}
    (h : t.register new = .error f) : ∃ old ∈ t.routes, old.Duplicates new ∧
      f = .refuse (.takenRoute new.schema.method old.template) := by
  rw [register] at h
  cases hfind : t.routes.find? fun old => old.clashes new with
  | none =>
    rw [hfind] at h
    cases h
  | some old =>
    rw [hfind] at h
    have hclash : old.clashes new = true :=
      List.find?_some (p := fun old : Route m => old.clashes new) hfind
    exact ⟨old, List.mem_of_find?_eq_some hfind, Route.clashes_iff_duplicates.mp hclash,
      (Except.error.inj h).symm⟩

/-- A route is refused exactly when there is a duplicate of it, and for that reason. -/
theorem WellOrdered.register_eq_error {t : Router m} (h : t.WellOrdered) {new : Route m}
    {f : Failure} : t.register new = .error f ↔ ∃ old ∈ t.routes, old.Duplicates new ∧
      f = .refuse (.takenRoute new.schema.method old.template) := by
  refine ⟨duplicate_of_register_eq_error, ?_⟩
  rintro ⟨old, hold, hsame, rfl⟩
  have hclash := Route.clashes_iff_duplicates.mpr hsame
  obtain ⟨f, hf⟩ := register_of_clash hold hclash
  -- The duplicate that is found clashes with this one, so it is this one.
  obtain ⟨first, hfirst, hfirstSame, rfl⟩ := duplicate_of_register_eq_error hf
  obtain ⟨hmethod, hpath⟩ := Route.clashes_iff.mp hclash
  obtain ⟨hfirstMethod, hfirstPath⟩ :=
    Route.clashes_iff.mp (Route.clashes_iff_duplicates.mpr hfirstSame)
  have hboth : first.clashes old = true :=
    Route.clashes_iff.mpr ⟨hfirstMethod.trans hmethod.symm, hfirstPath.trans hpath.symm⟩
  rw [hf, h.eq_of_clashes hfirst hold hboth]

/-- Of the routes of a table for a method that a normalized path matches, the one with the least
key. -/
structure Chooses (t : Router m) (method : Method) (path : String) (r : Route m) : Prop where
  /-- It is a route of the table. -/
  mem : r ∈ t.routes
  /-- It is for the method. -/
  method_eq : r.schema.method = method
  /-- The path matches it. -/
  isSome : (r.params? path).isSome = true
  /-- It has the least key. -/
  least : ∀ q ∈ t.routes, q.schema.method = method → (q.params? path).isSome = true →
    keyLe r.key q.key = true

/-- There is no choice between two routes. -/
theorem WellOrdered.chooses_unique {t : Router m} (h : t.WellOrdered) {method : Method}
    {path : String} {r s : Route m} (hr : t.Chooses method path r) (hs : t.Chooses method path s) :
    r = s := by
  have hkey : r.key = s.key := keyLe_antisymm (hr.least s hs.mem hs.method_eq hs.isSome)
    (hs.least r hr.mem hr.method_eq hr.isSome)
  exact h.eq_of_clashes hr.mem hs.mem
    (Route.clashes_of_template (hr.method_eq.trans hs.method_eq.symm) (congrArg (·.2.2) hkey))

/-- A path leads to the route with the least key. -/
theorem WellOrdered.lookup_eq_ok_iff {t : Router m} (h : t.WellOrdered) {method : Method}
    {path : String} {r : Route m} {params : List (String × String)} :
    t.lookup method path = .ok (r, params) ↔
      t.Chooses method (Template.normalize path) r ∧
        r.params? (Template.normalize path) = some params := by
  -- What is found is a choice, since everything before it is for another method or does not match.
  have hfound : ∀ {r params}, t.lookup method path = .ok (r, params) →
      t.Chooses method (Template.normalize path) r ∧
        r.params? (Template.normalize path) = some params := by
    intro r params hlookup
    obtain ⟨front, back, hsplit, hmethod, hparams, -⟩ := lookup_eq_ok hlookup
    have hmem : r ∈ t.routes := by
      rw [hsplit]
      exact List.mem_append_right _ List.mem_cons_self
    refine ⟨⟨hmem, hmethod, Option.isSome_of_eq_some hparams, fun q hq hqm hqp => ?_⟩, hparams⟩
    obtain ⟨found, texts, hq', hkey⟩ := h.exists_lookup_le hq hqp
    rw [hqm] at hq'
    obtain ⟨rfl, -⟩ := Prod.mk.inj (Except.ok.inj (hq'.symm.trans hlookup))
    exact hkey
  refine ⟨hfound, ?_⟩
  rintro ⟨hchosen, hparams⟩
  obtain ⟨found, texts, hlookup, -⟩ := h.exists_lookup_le hchosen.mem hchosen.isSome
  rw [hchosen.method_eq] at hlookup
  obtain ⟨hfoundChosen, htexts⟩ := hfound hlookup
  obtain rfl := h.chooses_unique hfoundChosen hchosen
  rw [hlookup, Option.some.inj (htexts.symm.trans hparams)]

/-- The failure for a path that leads nowhere. -/
def noRoute (method : Method) (path : String) : Failure :=
  .http (.saying .notFound ("No route for " ++ method.name ++ " " ++ Template.normalize path))

/-- A path leads nowhere exactly when it matches no route for the method. -/
theorem lookup_eq_error_iff {t : Router m} {method : Method} {path : String} {f : Failure} :
    t.lookup method path = .error f ↔ f = noRoute method path ∧
      ∀ q ∈ t.routes, q.schema.method = method →
        q.params? (Template.normalize path) = none := by
  have hnone : t.route? method (Template.normalize path) = none ↔
      ∀ q ∈ t.routes, q.schema.method = method →
        q.params? (Template.normalize path) = none := by
    rw [route?, List.findSome?_eq_none_iff]
    refine forall₂_congr fun q _ => ?_
    by_cases hm : q.schema.method = method
    · simp [hm]
    · simp [hm]
  rw [← hnone, lookup]
  cases t.route? method (Template.normalize path) with
  | some found =>
    refine iff_of_false (fun h => ?_) fun h => ?_
    · cases h
    · cases h.2
  | none =>
    rw [and_iff_left rfl, Except.error.injEq]
    exact eq_comm

/-- After any registrations on a new table, accepted or refused, its routes are in the order of
their keys, and no two of them are for one method and for templates that are the same up to names,
which is what comparing the compiled expressions says. A call is refused as a fault of arguments
exactly when the table has such a route already; whatever is refused, the table stays as it is, and
what is accepted adds its route to the others. And a path leads to the route with the least key
among those of the method that it matches, with its texts; to none, which is not found, exactly when
there is no such route. -/
theorem table_of_registrations (v : Option (Verifier m)) (serializer : Serializer)
    (calls : List (Registration m)) :
    (registered v serializer calls).routes.Pairwise (fun a b => keyLe a.key b.key = true) ∧
    (registered v serializer calls).routes.Pairwise (fun a b => ¬a.Duplicates b) ∧
    (∀ a b : Route m, a.Duplicates b ↔ a.schema.method = b.schema.method ∧
      Template.expression a.pattern = Template.expression b.pattern) ∧
    (∀ (call : Registration m) (f : Failure),
      ((call.steps.run.run (registered v serializer calls)).1 = .error f ∧ f.IsArgumentFault ↔
        ∃ new, call.route = .ok new ∧ ∃ old ∈ (registered v serializer calls).routes,
          old.Duplicates new ∧ f = .refuse (.takenRoute new.schema.method old.template)) ∧
      ((call.steps.run.run (registered v serializer calls)).1 = .error f →
        (call.steps.run.run (registered v serializer calls)).2 = registered v serializer calls)) ∧
    (∀ call : Registration m, (call.steps.run.run (registered v serializer calls)).1 = .ok () →
      ∃ new, call.route = .ok new ∧
        (call.steps.run.run (registered v serializer calls)).2.routes.Perm
          (new :: (registered v serializer calls).routes)) ∧
    ∀ method path,
      (∀ r params, (registered v serializer calls).lookup method path = .ok (r, params) ↔
        (registered v serializer calls).Chooses method (Template.normalize path) r ∧
          r.params? (Template.normalize path) = some params) ∧
      ∀ f, (registered v serializer calls).lookup method path = .error f ↔ f = noRoute method path ∧
        ∀ q ∈ (registered v serializer calls).routes, q.schema.method = method →
          q.params? (Template.normalize path) = none := by
  have hwell : (registered v serializer calls).WellOrdered := by
    rw [registered_eq_run]
    exact (wellOrdered_empty v serializer).run _
  generalize registered v serializer calls = t at hwell
  refine ⟨hwell.sorted, hwell.apart.imp fun hab => ?_,
    fun a b => Route.duplicates_iff_expression, fun call f => ⟨?_, fun hf => ?_⟩,
    fun call hadded => ?_,
    fun method path => ⟨fun r params => hwell.lookup_eq_ok_iff, fun f => lookup_eq_error_iff⟩⟩
  · rw [← Route.clashes_iff_duplicates, hab]
    exact Bool.false_ne_true
  · rw [run_steps]
    constructor
    · rintro ⟨hf, hfault⟩
      rcases (enter_eq_error (Prod.ext hf rfl)).2 with hroute | ⟨new, hroute, hnew⟩
      · exact absurd hfault (Registration.not_isArgumentFault_of_route hroute)
      · exact ⟨new, hroute, hwell.register_eq_error.mp hnew⟩
    · rintro ⟨new, hroute, hold⟩
      have hnew : t.register new = .error f := hwell.register_eq_error.mpr hold
      obtain ⟨old, -, -, rfl⟩ := hold
      refine ⟨?_, isArgumentFault_takenRoute _ _⟩
      rw [hroute, enter, hnew]
  · rw [run_steps] at hf ⊢
    exact (enter_eq_error (Prod.ext hf rfl)).1
  · rw [run_steps] at hadded ⊢
    obtain ⟨new, hroute, hnew, hafter⟩ := enter_eq_ok (Prod.ext hadded rfl)
    rcases t.attempt_cases new with ⟨⟨f, hrefused⟩, -⟩ | ⟨-, -, hroutes⟩
    · rw [hrefused] at hnew
      cases hnew
    · have hafterRoutes := (congrArg Router.routes hafter).trans hroutes
      exact ⟨new, hroute, (List.Perm.of_eq hafterRoutes).trans (insertRoute_perm new t.routes)⟩

end Router

end RestContract

import RestContract.Proofs.Contract.Linked
import RestContract.Proofs.Route.Registration

/-!
# Registering the operations of handlers

A group is registered with a handler that is checked first; then the routes for its operations are
added one after the other, and several handlers follow one another like this. Nothing is taken back:
where one of these attempts fails, the routes of all attempts before it stay in the table. So a
failure leaves the table as it was exactly when the very first attempt fails. For a single handler
this is so for whatever the check finds; a route that is taken stops it halfway, and a later one of
several handlers keeps what the ones before it have added.
-/

namespace RestContract

variable {m : Type → Type}

namespace Router

/-- Adds routes to a table one after the other, up to the first that cannot be added. -/
def follow : Router m → List (Outcome (Route m)) → Outcome Unit × Router m
  | t, [] => (.ok (), t)
  | t, attempt :: rest =>
    match t.enter attempt with
    | (.ok _, t') => t'.follow rest
    | (.error f, t') => (.error f, t')

theorem follow_cons_of_error {t t' : Router m} {attempt : Outcome (Route m)} {f : Failure}
    (h : t.enter attempt = (.error f, t')) (rest : List (Outcome (Route m))) :
    t.follow (attempt :: rest) = (.error f, t') := by
  rw [follow, h]

theorem follow_cons_of_ok {t t' : Router m} {attempt : Outcome (Route m)} {u : Unit}
    (h : t.enter attempt = (.ok u, t')) (rest : List (Outcome (Route m))) :
    t.follow (attempt :: rest) = t'.follow rest := by
  rw [follow, h]

private theorem follow_singleton (t : Router m) (attempt : Outcome (Route m)) :
    t.follow [attempt] = t.enter attempt := by
  rcases h : t.enter attempt with ⟨f | _, t'⟩
  · exact follow_cons_of_error h []
  · exact follow_cons_of_ok h []

/-- Further attempts go on where the ones before have ended, unless one of those fails. -/
theorem follow_append (t : Router m) (front back : List (Outcome (Route m))) :
    t.follow (front ++ back) =
      match t.follow front with
      | (.ok _, t') => t'.follow back
      | (.error f, t') => (.error f, t') := by
  induction front generalizing t with
  | nil => rfl
  | cons attempt rest ih =>
    rw [List.cons_append]
    rcases h : t.enter attempt with ⟨f | _, t'⟩
    · rw [follow_cons_of_error h, follow_cons_of_error h]
    · rw [follow_cons_of_ok h, follow_cons_of_ok h]
      exact ih t'

/-- Steps one after the other follow the attempts that each of them follows. -/
theorem run_forM {α : Type} {step : α → Registering (Router m) Unit}
    {attempts : α → List (Outcome (Route m))}
    (h : ∀ a t, (step a).run.run t = t.follow (attempts a)) (as : List α) (t : Router m) :
    (as.forM step).run.run t = t.follow (as.flatMap attempts) := by
  induction as generalizing t with
  | nil => rfl
  | cons a rest ih =>
    rw [List.forM_eq_forM] at ih ⊢
    rw [List.forM_cons, Registering.run_bind, h, List.flatMap_cons, follow_append]
    rcases t.follow (attempts a) with ⟨f | _, t'⟩
    · rfl
    · exact ih t'

/-- Attempts that succeed have added all their routes. -/
theorem follow_eq_ok {t t' : Router m} {attempts : List (Outcome (Route m))}
    (h : t.follow attempts = (.ok (), t')) :
    ∃ routes, attempts = routes.map .ok ∧ ¬t.Refuses routes ∧ t' = t.run routes := by
  induction attempts generalizing t with
  | nil =>
    obtain ⟨-, rfl⟩ := Prod.mk.inj h
    exact ⟨[], rfl, id, rfl⟩
  | cons attempt rest ih =>
    rcases hfirst : t.enter attempt with ⟨f | _, t₁⟩
    · rw [follow_cons_of_error hfirst] at h
      cases (Prod.mk.inj h).1
    · rw [follow_cons_of_ok hfirst] at h
      obtain ⟨new, rfl, hnew, rfl⟩ := enter_eq_ok hfirst
      obtain ⟨routes, rfl, haccepted, rfl⟩ := ih h
      refine ⟨new :: routes, rfl, not_or.mpr ⟨?_, haccepted⟩, rfl⟩
      rintro ⟨f, hf⟩
      rw [hnew] at hf
      cases hf

/-- Attempts that fail have added what stands before the failing one. -/
theorem follow_eq_error {t t' : Router m} {attempts : List (Outcome (Route m))} {f : Failure}
    (h : t.follow attempts = (.error f, t')) :
    ∃ front stop back, attempts = front.map .ok ++ stop :: back ∧ ¬t.Refuses front ∧
      t' = t.run front ∧ t'.enter stop = (.error f, t') := by
  induction attempts generalizing t with
  | nil => cases (Prod.mk.inj h).1
  | cons attempt rest ih =>
    rcases hfirst : t.enter attempt with ⟨g | _, t₁⟩
    · rw [follow_cons_of_error hfirst] at h
      obtain ⟨hf, rfl⟩ := Prod.mk.inj h
      obtain rfl := Except.error.inj hf
      obtain ⟨rfl, -⟩ := enter_eq_error hfirst
      exact ⟨[], attempt, rest, rfl, id, rfl, hfirst⟩
    · rw [follow_cons_of_ok hfirst] at h
      obtain ⟨new, rfl, hnew, rfl⟩ := enter_eq_ok hfirst
      obtain ⟨front, stop, back, rfl, haccepted, ht', hstop⟩ := ih h
      refine ⟨new :: front, stop, back, rfl, not_or.mpr ⟨?_, haccepted⟩, ht', hstop⟩
      rintro ⟨g, hg⟩
      rw [hnew] at hg
      cases hg

private theorem stop_of_enter_eq_error {t : Router m} {stop : Outcome (Route m)} {f : Failure}
    (h : t.enter stop = (.error f, t)) :
    stop = .error f ∨ ∃ new, stop = .ok new ∧ ∃ old ∈ t.routes, old.Duplicates new ∧
      f = .refuse (.takenRoute new.schema.method old.template) := by
  rcases (enter_eq_error h).2 with hstop | ⟨new, hstop, hnew⟩
  · exact .inl hstop
  · exact .inr ⟨new, hstop, duplicate_of_register_eq_error hnew⟩

end Router

/-- A call that registers the operations of handlers. -/
inductive Mounting (m : Type → Type) where
  /-- A group with a handler. -/
  | group (tag : GroupTag) (h : Handler m)
  /-- A handler with the group that it names. -/
  | handler (h : Handler m)
  /-- Several handlers, each with the group that it names. -/
  | handlers (hs : List (Handler m))

namespace Mounting

/-- The route for an operation of a handler. -/
def routeOf [Monad m] (registry : Registry) (h : Handler m) (op : Operation) : Outcome (Route m) :=
  (registry.schemaOf op.contract).map fun e =>
    ⟨e, .contract op.contract, Router.partFunction ((h.part? op.name).getD .other)⟩

/-- The attempts for a group: the check of the handler if it fails, and else a route for each
operation. -/
def groupAttempts [Monad m] (registry : Registry) (tag : GroupTag) (h : Handler m) :
    List (Outcome (Route m)) :=
  match h.check registry tag, registry.operationsOf tag with
  | .ok _, .ok ops => ops.map (routeOf registry h)
  | .error f, _ => [.error f]
  | .ok _, .error f => [.error f]

/-- The attempts for a handler, which fails as said when it names no group. -/
def handlerAttempts [Monad m] (registry : Registry) (h : Handler m) (groupless : Failure) :
    List (Outcome (Route m)) :=
  match h.group with
  | none => [.error groupless]
  | some tag => groupAttempts registry tag h

/-- The attempts of a call, in order. -/
def attempts [Monad m] (registry : Registry) : Mounting m → List (Outcome (Route m))
  | .group tag h => groupAttempts registry tag h
  | .handler h => handlerAttempts registry h
      (if h.isPlain then .silent .part else .refuse (.undeclaredGroup "None"))
  | .handlers [] => [.error (.refuse .noHandlers)]
  | .handlers (h :: rest) => (h :: rest).flatMap fun h =>
      handlerAttempts registry h (.refuse (.handlerWithoutGroup h.className))

/-- The steps of a call. -/
def steps [Monad m] (registry : Registry) : Mounting m → Registering (Router m) Unit
  | .group tag h => Router.mountGroup registry tag h
  | .handler h => Router.mountHandler registry h
  | .handlers hs => Router.mountHandlers registry hs

section

variable [Monad m] (registry : Registry)

/-- Registering a group follows its attempts. -/
theorem run_mountGroup (tag : GroupTag) (h : Handler m) (t : Router m) :
    (Router.mountGroup registry tag h).run.run t = t.follow (groupAttempts registry tag h) := by
  rw [Router.mountGroup, registerGroup, groupAttempts, Registering.run_bind, Registering.run_lift]
  cases h.check registry tag with
  | error f => rfl
  | ok _ =>
    simp only [Registering.run_bind, Registering.run_lift]
    cases registry.operationsOf tag with
    | error f => rfl
    | ok ops =>
      simp only [List.map_eq_flatMap]
      refine Router.run_forM (fun op t => ?_) ops t
      rw [Router.run_registerContract, Router.follow_singleton, routeOf]

/-- Registering a handler follows its attempts. -/
theorem run_mountHandler (h : Handler m) (t : Router m) :
    (Router.mountHandler registry h).run.run t = t.follow (attempts registry (.handler h)) := by
  rw [Router.mountHandler, attempts, handlerAttempts]
  cases h.group with
  | none => rfl
  | some tag => exact run_mountGroup registry tag h t

/-- Registering several handlers follows their attempts. -/
theorem run_mountHandlers (hs : List (Handler m)) (t : Router m) :
    (Router.mountHandlers registry hs).run.run t =
      t.follow (attempts registry (.handlers hs)) := by
  cases hs with
  | nil => rfl
  | cons first rest =>
    refine Router.run_forM (fun h t => ?_) (first :: rest) t
    rw [registerHandler, handlerAttempts]
    cases h.group with
    | none => rfl
    | some tag => exact run_mountGroup registry tag h t

/-- A call follows its attempts. -/
theorem run_steps (call : Mounting m) (t : Router m) :
    (call.steps registry).run.run t = t.follow (call.attempts registry) := by
  cases call with
  | group tag h => exact run_mountGroup registry tag h t
  | handler h => exact run_mountHandler registry h t
  | handlers hs => exact run_mountHandlers registry hs t

end

variable [Monad m] {registry : Registry}

private theorem exists_routeOf {tag : GroupTag} {ops : List Operation}
    (h : registry.operationsOf tag = .ok ops) (handler : Handler m) {op : Operation}
    (hop : op ∈ ops) : ∃ r, routeOf registry handler op = .ok r := by
  obtain ⟨classes, -, hmap⟩ := Outcome.bind_eq_ok.mp h
  obtain ⟨c, -, hc⟩ := exists_mem_of_forall₂ (Outcome.forall₂_of_mapM hmap) hop
  obtain ⟨e, he, hop⟩ := Outcome.bind_eq_ok.mp hc
  obtain rfl := Except.ok.inj hop
  rw [routeOf, he]
  exact ⟨_, rfl⟩

/-- For a group only the first attempt can be one without a route. -/
theorem groupAttempts_stop {tag : GroupTag} {h : Handler m} {front : List (Route m)} {f : Failure}
    {back : List (Outcome (Route m))}
    (hsplit : groupAttempts registry tag h = front.map .ok ++ .error f :: back) : front = [] := by
  cases front with
  | nil => rfl
  | cons first rest =>
    rw [groupAttempts] at hsplit
    split at hsplit
    next ops _ hops =>
      have hmem : .error f ∈ ops.map (routeOf registry h) := by
        rw [hsplit]
        exact List.mem_append_right _ List.mem_cons_self
      obtain ⟨op, hop, hroute⟩ := List.mem_map.mp hmem
      obtain ⟨r, hr⟩ := exists_routeOf hops h hop
      cases hr.symm.trans hroute
    next => cases (List.cons.inj hsplit).1
    next => cases (List.cons.inj hsplit).1

/-- A call with a single handler. -/
def IsSingle : Mounting m → Prop
  | .group _ _ => True
  | .handler _ => True
  | .handlers _ => False

/-- With a single handler only the first attempt can be one without a route. -/
theorem attempts_stop {call : Mounting m} (hcall : call.IsSingle) {front : List (Route m)}
    {f : Failure} {back : List (Outcome (Route m))}
    (hsplit : call.attempts registry = front.map .ok ++ .error f :: back) : front = [] := by
  cases call with
  | group tag h => exact groupAttempts_stop hsplit
  | handler h =>
    rw [attempts, handlerAttempts] at hsplit
    split at hsplit
    · cases front with
      | nil => rfl
      | cons first rest => cases (List.cons.inj hsplit).1
    · exact groupAttempts_stop hsplit
  | handlers hs => exact hcall.elim

/-- A call that fails has added the routes of all attempts before the one that failed, and nothing
else: that one is without a route, or its route is a duplicate of one in the table by then. So the
table is as it was exactly when the first attempt has failed; with a single handler this is so
unless a route was taken. -/
theorem left_by_failing {call : Mounting m} {t t' : Router m} {f : Failure}
    (h : (call.steps registry).run.run t = (.error f, t')) :
    ∃ front stop back, call.attempts registry = front.map .ok ++ stop :: back ∧
      t' = t.run front ∧ t'.routes.Perm (t.routes ++ front) ∧
      (stop = .error f ∨ ∃ new, stop = .ok new ∧ ∃ old ∈ t'.routes, old.Duplicates new ∧
        f = .refuse (.takenRoute new.schema.method old.template)) ∧
      (t'.routes = t.routes ↔ front = []) ∧
      (call.IsSingle → stop = .error f → t' = t) := by
  rw [run_steps] at h
  obtain ⟨front, stop, back, hsplit, haccepted, rfl, hstop⟩ := Router.follow_eq_error h
  have hperm := Router.perm_run haccepted
  refine ⟨front, stop, back, hsplit, rfl, hperm, Router.stop_of_enter_eq_error hstop, ⟨?_, ?_⟩, ?_⟩
  · intro hroutes
    rw [hroutes] at hperm
    have hlength := hperm.length_eq
    rw [List.length_append] at hlength
    exact List.eq_nil_of_length_eq_zero (by omega)
  · rintro rfl
    rfl
  · rintro hcall rfl
    rw [attempts_stop hcall hsplit]
    rfl

open Registry (readingArguments)

/-- Two classes for one path are declared as the members of a group. -/
def samePathSteps : List ClassStep :=
  [.contract "A" none [] none, .contract "B" none [] none, .plain "G",
    .endpoint (readingArguments "/a") (some 1), .endpoint (readingArguments "/a") (some 2),
    .group (.text "/g") (.text "required") (some ⟨3, "G"⟩) [1, 2]]

/-- An operation that answers nothing. -/
def silentPart : HandlerPart Id := .function .async fun _ _ => .ok (.value .null)

/-- A handler for the group with an operation for each class. -/
def samePathHandler : Handler Id :=
  Handler.serving ⟨3, "G"⟩ ⟨"H", none, [("a", silentPart), ("b", silentPart)], false⟩

/-- The route for the first class. -/
def firstRoute : Route Id :=
  ⟨⟨.text "A", .get, "/a", [], .plain .null, some ⟨4, .text "G", "/g", .required⟩, false, none⟩,
    .contract (RecordTag.of 1 "A" none []), fun _ _ => .ok (.value .null)⟩

/-- The route for the second class is refused. -/
theorem run_samePathHandler :
    ((Mounting.handler samePathHandler).steps (ClassStep.declared samePathSteps)).run.run
      (Router.empty none) =
        (.error (.refuse (.takenRoute .get "/g/a")), ⟨none, .json, [firstRoute]⟩) := by
  cbv

/-- The first of its two routes is what it leaves. -/
theorem left_by_samePathHandler :
    ((Mounting.handler samePathHandler).steps (ClassStep.declared samePathSteps)).run.run
        (Router.empty none) =
          (.error (.refuse (.takenRoute .get "/g/a")), ⟨none, .json, [firstRoute]⟩) ∧
      ∃ front stop back, (Mounting.handler samePathHandler).attempts
          (ClassStep.declared samePathSteps) = front.map .ok ++ stop :: back ∧
        ⟨none, .json, [firstRoute]⟩ = (Router.empty none).run front ∧
        [firstRoute].Perm front ∧
        (stop = .error (.refuse (.takenRoute .get "/g/a")) ∨ ∃ new, stop = .ok new ∧
          ∃ old ∈ [firstRoute], old.Duplicates new ∧ Failure.refuse (.takenRoute .get "/g/a") =
            .refuse (.takenRoute new.schema.method old.template)) ∧
        ([firstRoute] = [] ↔ front = []) ∧
        ((Mounting.handler samePathHandler).IsSingle →
          stop = .error (.refuse (.takenRoute .get "/g/a")) →
            ⟨none, .json, [firstRoute]⟩ = Router.empty none) :=
  ⟨run_samePathHandler, left_by_failing run_samePathHandler⟩

/-- Every step has declared what it says, and the handler has every operation of the group. Yet its
registration fails and leaves a route. -/
theorem not_unchanged_samePathHandler :
    (samePathSteps.forM ClassStep.run).run.run .empty =
        (.ok (), ClassStep.declared samePathSteps) ∧
      samePathHandler.check (ClassStep.declared samePathSteps) ⟨3, "G"⟩ = .ok () ∧
      ¬∀ f t', ((Mounting.handler samePathHandler).steps
        (ClassStep.declared samePathSteps)).run.run (Router.empty none) = (.error f, t') →
          t'.routes = (Router.empty none).routes := by
  refine ⟨by cbv, by cbv, fun h => ?_⟩
  have hnone : [firstRoute] = [] := h _ _ run_samePathHandler
  cases hnone

end Mounting

end RestContract

import Mathlib
import RestContract.Route.Dispatch

/-!
# The steps of serving

Serving a request looks its route up, recognizes the caller, reads the input and calls the
function of the route, in this order. The first step that fails ends it. What came of it is
turned into an answer once everything else is done.
-/

namespace RestContract

/-- Steps in a state of the world run one after the other. -/
theorem StateM.run_bind {σ : Type} (x : StateM σ α) (f : α → StateM σ β) (s : σ) :
    (x >>= f).run s = (f (x.run s).1).run (x.run s).2 := rfl

variable {m : Type → Type}

/-- Calls the function of a route for a caller, once the caller is recognized and the input
is read. -/
def Route.call [Monad m] (registry : Registry) (serializer : Serializer) (route : Route m)
    (data : RequestData) (caller : Outcome Caller) : m (Outcome HandlerResult) :=
  match caller with
  | .error f => pure (.error f)
  | .ok caller =>
    match Router.inputOf registry serializer route data with
    | .error f => pure (.error f)
    | .ok input => route.handler input caller

namespace Router

/-- The route to which a path leads stands in the table. -/
theorem mem_of_lookup {r : Router m} {method : Method} {path : String}
    {route : Route m} {params : List (String × String)}
    (h : r.lookup method path = .ok (route, params)) : route ∈ r.routes := by
  unfold lookup at h
  split at h
  next found hfound =>
    obtain rfl := Except.ok.inj h
    obtain ⟨entry, hentry, hfound⟩ := List.exists_of_findSome?_eq_some hfound
    split at hfound
    · obtain ⟨_, -, hpair⟩ := Option.map_eq_some_iff.mp hfound
      exact (Prod.mk.inj hpair).1 ▸ hentry
    · cases hfound
  next => cases h

/-- A request leads to a route of a table, with texts for the holes of the route. -/
def Finds (r : Router m) (request : RawRequest) (route : Route m)
    (params : List (String × String)) : Prop :=
  ∃ method, request.knownMethod = .ok method ∧ r.lookup method request.path = .ok (route, params)

/-- A request leads to one route. -/
theorem Finds.eq {r : Router m} {request : RawRequest} {route route' : Route m}
    {params params' : List (String × String)} (h : r.Finds request route params)
    (h' : r.Finds request route' params') : route' = route ∧ params' = params := by
  obtain ⟨method, hm, hl⟩ := h
  obtain ⟨method', hm', hl'⟩ := h'
  obtain rfl : method = method' := Except.ok.inj (hm.symm.trans hm')
  exact Prod.mk.inj (Except.ok.inj (hl'.symm.trans hl))

variable [Monad m] [LawfulMonad m]

/-- Serving finds the route, recognizes the caller and calls the function. -/
theorem run_serve (registry : Registry) (r : Router m) (request : RawRequest) :
    (serve registry r request).run =
      match request.knownMethod with
      | .error f => pure (.error f)
      | .ok method =>
        match r.lookup method request.path with
        | .error f => pure (.error f)
        | .ok (route, params) =>
          authenticate route.schema.auth (request.header? "authorization") r.verifier >>=
            fun caller => Except.map (Prod.mk route) <$>
              route.call registry r.serializer (request.data params) caller := by
  unfold serve
  simp only [ExceptT.run_bind, ExceptT.run_mk, pure_bind]
  cases request.knownMethod with
  | error f => rfl
  | ok method =>
    dsimp only
    cases r.lookup method request.path with
    | error f => rfl
    | ok found =>
      obtain ⟨route, params⟩ := found
      have hfailed : ∀ f : Failure, (pure (.error f) : m (Outcome (Route m × HandlerResult))) =
          Except.map (Prod.mk route) <$> pure (.error f) := fun f => by
        rw [map_pure]
        rfl
      refine bind_congr fun caller => ?_
      unfold Route.call
      cases caller with
      | error f => exact hfailed f
      | ok caller =>
        dsimp only
        cases inputOf registry r.serializer route (request.data params) with
        | error f => exact hfailed f
        | ok input =>
          rw [map_eq_pure_bind]
          refine bind_congr fun result => ?_
          cases result <;> rfl

/-- A request is answered with what came of serving it. -/
theorem dispatch_eq (registry : Registry) (r : Router m) (request : RawRequest)
    (format : ErrorFormat) :
    r.dispatch registry request format = r.answer format <$> (serve registry r request).run :=
  (map_eq_pure_bind _ _).symm

end Router

end RestContract

import RestContract.Proofs.Json.ReadBack
import RestContract.Proofs.Route.Answers
import RestContract.Request.Exchange

/-!
# What the client reads in an answer

An answer delivers to the client what came of serving its request, when both sides read and write
bodies in the same way. Where the function gave nothing, there is no body and the client reads
nothing. Any other result is in the body, which has to be filled, and the client reads it from
there. An error has a body that has to be read as the same error, unless its status is that of a
success. JSON does both.
-/

namespace RestContract

open Utf8 (isWhole)

variable {m : Type → Type} {σ : Type}

/-! ## Errors -/

namespace ErrorBody

private theorem StandsFor.nodup {origin : Origin} {v : Value}
    {details : Option (List (String × String))} (h : StandsFor origin v details) :
    ∀ ds ∈ details, (ds.map (·.1)).Nodup := by
  cases h with
  | absent => exact nofun
  | texts _ hnodup =>
    rintro ds ⟨⟩
    exact hnodup

end ErrorBody

section

variable {serializer : Serializer} {format : ErrorFormat}

end

namespace Router

variable {format : ErrorFormat}

/-- Runs a route for a request that leads to it: recognizes the caller, reads the input and calls
the function. -/
def runRoute [Monad m] (registry : Registry) (r : Router m) (request : RawRequest) (route : Route m)
    (params : List (String × String)) : m (Outcome HandlerResult) :=
  authenticate route.schema.auth (request.header? "authorization") r.verifier >>=
    route.call registry r.serializer (request.data params)

/-- The answer to a request that leads to a route is made of what came of running the route. -/
theorem Finds.dispatch_eq [Monad m] [LawfulMonad m] {registry : Registry} {r : Router m}
    {request : RawRequest} {route : Route m} {params : List (String × String)}
    (h : r.Finds request route params) :
    r.dispatch registry request format =
      (fun came => r.answer format (came.map (Prod.mk route))) <$>
        r.runRoute registry request route params := by
  obtain ⟨method, hmethod, hlookup⟩ := h
  rw [Router.dispatch_eq, run_serve, hmethod]
  dsimp only
  rw [hlookup]
  dsimp only
  rw [runRoute, map_bind, map_bind]
  refine bind_congr fun caller => ?_
  rw [Functor.map_map]

end Router

end RestContract

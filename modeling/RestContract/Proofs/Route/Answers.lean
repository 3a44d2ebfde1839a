import Mathlib
import RestContract.Proofs.Endpoint.Extraction
import RestContract.Proofs.Error.Sayable
import RestContract.Proofs.Identity.Bearer
import RestContract.Proofs.Route.Serving
import RestContract.Proofs.Route.Table

/-!
# Which failures reach the client

Whatever fails while a request is served is turned into an answer: an error that is meant for
the client with its own status, and everything else as an internal error. Two things are not
turned into one, since they come after everything else: an error that lacks a part, has a part
of the wrong sort or cannot be written, and the result of a function that no payload can hold.
The errors of the router itself can be written, unless half of a surrogate pair stands in the
request or in a name; so only what the verifier or a function gives escapes.
-/

namespace RestContract

open Utf8 (isWhole)
open Outcome (isSayable_ok isSayable_error)

variable {m : Type → Type} {σ : Type}

/-! ## Formats of errors -/

/-- An error is not answered, but ends in a failure. -/
inductive HttpError.Escapes (format : ErrorFormat) (e : HttpError) : Failure → Prop where
  /-- A part of it is missing. -/
  | missing : e.status = none ∨ e.code = none ∨ e.message = none ∨ e.details = none →
      e.Escapes format (.silent .part)
  /-- Its parts are not of the right sort. -/
  | faulty {n : Nat} : e.status ≠ none → e.toBody .null = .error (.invalid n) →
      e.Escapes format (.invalid n)
  /-- Its body cannot be written. -/
  | broken {body : ErrorBody} {f : Failure} : e.status ≠ none → e.toBody .null = .ok body →
      format.write body = .error f → e.Escapes format f
  /-- Its status is no number. -/
  | uncounted {v : Value} {body : ErrorBody} {data : Bytes} {f : Failure} : e.status = some v →
      e.toBody .null = .ok body → format.write body = .ok data → statusOf v = .error f →
      e.Escapes format f

section

variable {format : ErrorFormat} {e : HttpError}

end

/-! ## What came of serving -/

/-- What came of serving a request escapes as a failure. -/
inductive Escapes (r : Router m) (format : ErrorFormat) :
    Outcome (Route m × HandlerResult) → Failure → Prop where
  /-- An error does. -/
  | error {e : HttpError} {f : Failure} : e.Escapes format f → Escapes r format (.error (.http e)) f
  /-- No payload can hold a result. -/
  | result {route : Route m} {result : HandlerResult} {f : Failure} :
      route.schema.streaming = false → result.asValue ≠ .null →
      r.serializer.encode result.asValue = .error f → Escapes r format (.ok (route, result)) f

namespace Router

variable {r : Router m} {format : ErrorFormat}

end Router

/-- A route has whole names, wherever its input comes from. -/
def Route.IsNamed (registry : Registry) (route : Route m) : Prop :=
  match route.source with
  | .endpoint => route.schema.IsNamed
  | .contract tag => isWhole tag.name = true ∧ ∀ e, registry.schemaOf tag = .ok e → e.IsNamed

/-- No half of a surrogate pair stands in the method or the path of a request. -/
def RawRequest.IsWhole (request : RawRequest) : Prop :=
  isWhole request.method = true ∧ isWhole request.path = true

namespace Router

/-- What came of serving a request was given by the verifier, which failed, or by the function of
the route to which the request leads. -/
inductive Gives (registry : Registry) (r : Router (StateM σ)) (request : RawRequest) :
    Outcome (Route (StateM σ) × HandlerResult) → Prop where
  /-- The verifier failed. -/
  | verifier {verify : Verifier (StateM σ)} {token : String} {s : σ} {f : Failure} :
      r.verifier = some verify → request.Bears token → ((verify token).run s).1 = .error f →
      Gives registry r request (.error (verifierFailure f))
  /-- The function was called. -/
  | function {route : Route (StateM σ)} {params : List (String × String)} {input : Value}
      {caller : Caller} {s : σ} : r.Finds request route params →
      inputOf registry r.serializer route (request.data params) = .ok input →
      Gives registry r request (((route.handler input caller).run s).1.map (Prod.mk route))

/-- The names of every route of a table are whole. -/
def IsNamed (registry : Registry) (r : Router (StateM σ)) : Prop :=
  ∀ route ∈ r.routes, route.IsNamed registry

end Router

end RestContract

import RestContract.Endpoint.Kinds
import RestContract.Error.Failure
import RestContract.Text.Case

/-!
# Who is calling

A caller is unknown or known by an identifier. Callers prove who they are by a token in a
header; a verifier turns it into the identifier. Where authentication is required every
doubt is an error, and elsewhere it leaves the caller unknown.
-/

namespace RestContract

/-- Who is calling. -/
structure Caller where
  /-- The identifier of the caller, none when the caller is unknown. -/
  id : Option String
  deriving DecidableEq, Repr

namespace Caller

/-- The caller of whom nothing is known. -/
def unknown : Caller := ⟨none⟩

/-- The caller with an identifier; an absent one leaves the caller unknown,
and only a text is one. -/
def ofValue (v : Value) : Outcome Caller :=
  match (Shape.union [.text, .null]).accept .caller v with
  | .ok a => .ok ⟨a.value.asText?⟩
  | .error e => .error (.ofRefusal e)

/-- Whether the caller is known. -/
def isKnown (c : Caller) : Bool := c.id.isSome

/-- The identifier of the caller, who has to be known. -/
def require (c : Caller) : Outcome String :=
  match c.id with
  | some id => .ok id
  | none => .error (.http (.plain .unauthorized))

end Caller

/-- The token in an authorization header: what stands behind the word `bearer`, without blanks
around it. -/
def bearerToken (header : Option String) : Option String :=
  match header with
  | none => none
  | some h =>
    let (scheme, rest) := Text.cut ' ' h.toList
    let token := Text.trim Text.isBlank (rest.getD [])
    if Text.lower (String.ofList scheme) = "bearer" && !token.isEmpty then
      some (String.ofList token)
    else none

/-- Turns a token into the identifier of a caller. -/
abbrev Verifier (m : Type → Type) := String → m (Outcome Value)

/-- Whether a failure already says that a caller could not be recognized. -/
def Failure.isAuthentication (f : Failure) : Bool := f.asHttp?.any fun e => e.kind.isAuthentication

/-- The caller, or an error, where the caller could not be recognized. -/
def unrecognized (auth : Auth) (e : Failure) : Outcome Caller :=
  match auth with
  | .required => .error e
  | .anonymous => .ok Caller.unknown

/-- The failure of a verifier as a failure to recognize the caller. -/
def verifierFailure (f : Failure) : Failure :=
  if f.isAuthentication then f else .http (.authenticationFailed f.message)

/-- Finds out who is calling from the authorization header of a request. -/
def authenticate [Monad m] (auth : Auth) (header : Option String) (verifier : Option (Verifier m)) :
    m (Outcome Caller) :=
  match bearerToken header with
  | none => pure (unrecognized auth (.http (.plain .missingToken)))
  | some token =>
    match verifier with
    | none =>
      pure
        (unrecognized auth (.http (.authenticationFailed "no authentication provider configured")))
    | some verify => do
      match ← verify token with
      | .error f => pure (unrecognized auth (verifierFailure f))
      | .ok id => pure (Caller.ofValue id)

end RestContract

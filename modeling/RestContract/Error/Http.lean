import RestContract.Value.Acceptance
import RestContract.Value.Display
import RestContract.Json.Reader
import RestContract.Json.Writer

/-!
# Errors that a server answers with

Every kind of error has a status and a code that callers can rely on, and a message for
when none is given. Kinds refine one another, and others than those here may be declared: an
error of such a kind may show anything in the place of its status, its code, its message and
its details, or nothing at all. On the wire an error is an object of its code, its message and
possibly details, which are texts by name.
-/

namespace RestContract

/-- A kind of error that a server answers with. -/
inductive HttpErrorKind where
  /-- Any error. -/
  | general
  /-- The request is wrong. -/
  | badRequest
  /-- The caller is not known. -/
  | unauthorized
  /-- The caller may not do this. -/
  | forbidden
  /-- There is no such thing. -/
  | notFound
  /-- The state of things does not allow it. -/
  | conflict
  /-- Something went wrong inside. -/
  | internal
  /-- Something that no endpoint declares went wrong. -/
  | unexpected
  /-- The data of a request cannot be read. -/
  | undecodable
  /-- A parameter is missing. -/
  | missingParameter
  /-- The body is missing. -/
  | missingBody
  /-- The payload is malformed. -/
  | malformedPayload
  /-- The caller could not be recognized. -/
  | authentication
  /-- The caller's token is no good. -/
  | invalidToken
  /-- The caller sent no token. -/
  | missingToken
  /-- Recognizing the caller went wrong. -/
  | authenticationFailed
  /-- A kind that refines another one and has a name of its own. -/
  | declared (parent : HttpErrorKind) (name : String)
  deriving DecidableEq, Repr, Inhabited

namespace HttpErrorKind

/-- The kind that a kind refines. -/
def parent? : HttpErrorKind → Option HttpErrorKind
  | .general => none
  | .badRequest => some .general
  | .unauthorized => some .general
  | .forbidden => some .general
  | .notFound => some .general
  | .conflict => some .general
  | .internal => some .general
  | .unexpected => some .general
  | .undecodable => some .badRequest
  | .missingParameter => some .undecodable
  | .missingBody => some .undecodable
  | .malformedPayload => some .undecodable
  | .authentication => some .unauthorized
  | .invalidToken => some .authentication
  | .missingToken => some .authentication
  | .authenticationFailed => some .authentication
  | .declared parent _ => some parent

/-- The name of a kind. -/
def name : HttpErrorKind → String
  | .general => "HTTPError"
  | .badRequest => "BadRequest"
  | .unauthorized => "Unauthorized"
  | .forbidden => "Forbidden"
  | .notFound => "NotFound"
  | .conflict => "Conflict"
  | .internal => "InternalError"
  | .unexpected => "UnexpectedError"
  | .undecodable => "RequestDecodeError"
  | .missingParameter => "MissingParameter"
  | .missingBody => "MissingBody"
  | .malformedPayload => "DecodeFailure"
  | .authentication => "AuthenticationError"
  | .invalidToken => "InvalidToken"
  | .missingToken => "MissingToken"
  | .authenticationFailed => "AuthenticationFailed"
  | .declared _ name => name

/-- All kinds but those that somebody declared. -/
def all : List HttpErrorKind :=
  [.general, .badRequest, .unauthorized, .forbidden, .notFound, .conflict, .internal, .unexpected,
    .undecodable, .missingParameter, .missingBody, .malformedPayload, .authentication,
    .invalidToken,
    .missingToken, .authenticationFailed]

/-- The kind of a name. -/
def ofName? (s : String) : Option HttpErrorKind := all.find? fun k => k.name = s

/-- How many kinds a kind refines. -/
def depth : HttpErrorKind → Nat
  | .general => 0
  | .undecodable => 2
  | .authentication => 2
  | .missingParameter => 3
  | .missingBody => 3
  | .malformedPayload => 3
  | .invalidToken => 3
  | .missingToken => 3
  | .authenticationFailed => 3
  | .declared parent _ => parent.depth + 1
  | _ => 1

/-- A kind refines one kind more than the kind that it refines itself. -/
theorem depth_parent {k p : HttpErrorKind} (h : k.parent? = some p) : p.depth < k.depth := by
  cases k with
  | declared parent =>
    obtain rfl := Option.some.inj h
    exact Nat.lt_succ_self _
  | _ => simp [parent?] at h <;> subst h <;> decide

/-- A kind and the kinds that it refines, the narrowest first. -/
def lineage (k : HttpErrorKind) : List HttpErrorKind :=
  k :: match h : k.parent? with
    | none => []
    | some p =>
      have := depth_parent h
      lineage p
termination_by k.depth

/-- Whether a kind is, or refines, the kind of callers that could not be recognized. -/
def isAuthentication : HttpErrorKind → Bool
  | .authentication => true
  | .declared parent _ => parent.isAuthentication
  | k => k.parent? = some .authentication

/-- The status of a kind. -/
def status : HttpErrorKind → Nat
  | .general => 500
  | .badRequest => 400
  | .unauthorized => 401
  | .forbidden => 403
  | .notFound => 404
  | .conflict => 409
  | .internal => 500
  | .unexpected => 500
  | .undecodable => 400
  | .missingParameter => 400
  | .missingBody => 400
  | .malformedPayload => 400
  | .authentication => 401
  | .invalidToken => 401
  | .missingToken => 401
  | .authenticationFailed => 401
  | .declared parent _ => parent.status

/-- The code of a kind. -/
def code : HttpErrorKind → String
  | .general => "INTERNAL_ERROR"
  | .badRequest => "BAD_REQUEST"
  | .unauthorized => "UNAUTHORIZED"
  | .forbidden => "FORBIDDEN"
  | .notFound => "NOT_FOUND"
  | .conflict => "CONFLICT"
  | .internal => "INTERNAL_ERROR"
  | .unexpected => "UNEXPECTED_ERROR"
  | .undecodable => "BAD_REQUEST"
  | .missingParameter => "MISSING_PARAMETER"
  | .missingBody => "MISSING_BODY"
  | .malformedPayload => "DECODE_FAILURE"
  | .authentication => "UNAUTHORIZED"
  | .invalidToken => "INVALID_TOKEN"
  | .missingToken => "MISSING_TOKEN"
  | .authenticationFailed => "AUTH_FAILED"
  | .declared parent _ => parent.code

/-- The message of a kind when none is given. -/
def defaultMessage : HttpErrorKind → String
  | .general => "Internal server error"
  | .badRequest => "Bad request"
  | .unauthorized => "Authentication required"
  | .forbidden => "Forbidden"
  | .notFound => "Not found"
  | .conflict => "Conflict"
  | .internal => "Internal server error"
  | .unexpected => "Unexpected error"
  | .undecodable => "Bad request"
  | .missingParameter => "Bad request"
  | .missingBody => "Missing request body"
  | .malformedPayload => "Malformed payload"
  | .authentication => "Authentication required"
  | .invalidToken => "Authentication required"
  | .missingToken => "Authentication token is required"
  | .authenticationFailed => "Authentication required"
  | .declared parent _ => parent.defaultMessage

end HttpErrorKind

/-- An error that a server answers with. What it shows of itself is that of its kind and what it was
made with, unless somebody put something else there or left it out. -/
structure HttpError where
  /-- The kind of the error. -/
  kind : HttpErrorKind
  /-- The text of the error. -/
  words : String
  /-- The status, a whole number. -/
  status : Option Value
  /-- The code, a text. -/
  code : Option Value
  /-- The message, a text. -/
  message : Option Value
  /-- The details, null when there are none. -/
  details : Option Value

namespace HttpError

/-- An error of a kind; a message that counts as false gives way to that of the kind. -/
def of (kind : HttpErrorKind) (message details : Value) : HttpError :=
  let message := if message.isTruthy then message else .text kind.defaultMessage
  ⟨kind, message.plain, some (.int kind.status), some (.text kind.code), some message,
    some details⟩

/-- An error of a kind with a message. -/
def saying (kind : HttpErrorKind) (message : String) : HttpError := of kind (.text message) .null

/-- An error of a kind with its own message. -/
def plain (kind : HttpErrorKind) : HttpError := of kind .null .null

/-- The error for a parameter that is missing at a place of the request. -/
def missingParameter (name : Value) (location : String) : HttpError :=
  of .missingParameter (.text ("Missing " ++ location ++ " parameter: " ++ name.plain))
    (.map [(.text "parameter", name)])

/-- The error for a token that is no good. -/
def invalidToken (reason : String) : HttpError := saying .invalidToken ("Invalid token: " ++ reason)

/-- The error for a caller who could not be recognized. -/
def authenticationFailed (reason : String) : HttpError :=
  saying .authenticationFailed ("Authentication failed: " ++ reason)

/-- The error for a payload with so many faults. -/
def malformedPayload (count : Nat) : HttpError :=
  saying .malformedPayload ("Malformed payload: " ++ toString count ++ " validation error(s)")

end HttpError

/-- An error on the wire. -/
structure ErrorBody where
  /-- The code of the error. -/
  code : String
  /-- The message of the error. -/
  message : String
  /-- The details of the error, if it has any. -/
  details : Option (List (String × String))
  deriving DecidableEq, Repr, Inhabited

namespace ErrorBody

/-- The shape of the details of an error. -/
def detailsShape : Shape := .union [.mapOf .text, .null]

/-- The texts by name of a value that was accepted as the details of an error. -/
def detailTexts : Value → Option (List (String × String))
  | .map entries => some (entries.map fun e => (e.1.plain, e.2.plain))
  | _ => none

/-- The fields of an accepted record. -/
def ofFields (fields : List (String × Value)) : ErrorBody :=
  ⟨((fields.lookup "errorCode").map Value.plain).getD "",
    ((fields.lookup "message").map Value.plain).getD "",
    (fields.lookup "details").bind detailTexts⟩

/-- The shape of an error on the wire, its code being named as given. -/
def shape (codeName : String) : Shape :=
  .record ⟨0, "ErrorResponse", [], []⟩
    [⟨codeName, .text, none, none, none⟩, ⟨"message", .text, none, none, none⟩,
      ⟨"details", detailsShape, some .null, none, none⟩]

/-- Whether an object names the code of an error by its second name only. -/
def usesSecondName : Value → Bool
  | .map entries =>
    (lookupKey (.text "errorCode") entries).isNone &&
    (lookupKey (.text "error_code") entries).isSome
  | _ => false

/-- The error that a value stands for, or the number of faults of the value. -/
def accept (origin : Origin) (v : Value) : Except Nat ErrorBody :=
  let codeName := if usesSecondName v then "error_code" else "errorCode"
  match (shape codeName).accept origin v with
  | .ok ⟨.record _ (code :: rest), _, _⟩ => .ok (ofFields (("errorCode", code.2) :: rest))
  | .ok _ => .error 1
  | .error (.faults n) => .error n
  | .error .incomparable => .error 1

/-- The error that a payload stands for, or the number of faults of the payload. -/
def read (data : Bytes) : Except Nat ErrorBody :=
  match Utf8.decode? data with
  | none => .error 1
  | some s =>
    match Json.readEntries .payload s with
    | .error _ => .error 1
    | .ok v => accept .payload v

/-- An error as an object; details that it does not have are left out. -/
def toValue (b : ErrorBody) : Value :=
  .map ([(.text "errorCode", .text b.code), (.text "message", .text b.message)] ++
    match b.details with
    | none => []
    | some details => [(.text "details", .map (details.map fun d => (.text d.1, .text d.2)))])

/-- The JSON text of an error. -/
def text (b : ErrorBody) : String := (Json.write? b.toValue).getD ""

/-- Whether an error has a payload: no payload holds half of a surrogate pair. -/
def isSendable (b : ErrorBody) : Bool := Utf8.isWhole b.text

/-- The payload of an error. -/
def toBytes (b : ErrorBody) : Bytes := Utf8.encode b.text

end ErrorBody

end RestContract

import RestContract.Error.Failure

/-!
# Payloads

A payload is a JSON text. It is read as a value of a shape; where only the name of a type
or nothing is known, any JSON value will do. A payload that is no JSON text has one
fault, every other one as many as its value has for the shape. Bodies may be written in
another way; errors are JSON texts always.
-/

namespace RestContract.Payload

/-- The payload of a value. -/
def encode (v : Value) : Outcome Bytes := (Json.encode v).mapError Failure.ofWriteFault

/-- The JSON value of a payload, in which names may be repeated, unless it is malformed. -/
def parse? (data : Bytes) : Option Value :=
  match Utf8.decode? data with
  | none => none
  | some s => (Json.readEntries .payload s).toOption

/-- The failure of a payload with so many faults. -/
def malformed (count : Nat) : Failure := .http (.malformedPayload count)

/-- The value of a payload for a shape. -/
def decodeShape (s : Shape) (data : Bytes) : Outcome Value :=
  if !s.isCheckable then .error (.silent .part)
  else match parse? data with
  | none => .error (malformed 1)
  | some v =>
    match s.accept .payload v with
    | .ok a => .ok a.value
    | .error (.faults n) => .error (malformed n)
    | .error .incomparable => .error (.silent .sort)

/-- The value of a payload for what stands as its type. -/
def decode (type : ShapeRef) (data : Bytes) : Outcome Value :=
  match type with
  | .shape s => decodeShape s data
  | .plain v =>
    if v.isNull || v.asText?.isSome then decodeShape .any data
    else if v.isKey then .error (.silent .unknownKind)
    else .error (.silent .sort)

end RestContract.Payload

namespace RestContract

/-- What turns bodies into payloads and payloads into values for what stands as their type. -/
structure Serializer where
  /-- The payload of a value. -/
  encode : Value → Outcome Bytes
  /-- The value of a payload. -/
  decode : ShapeRef → Bytes → Outcome Value

/-- Bodies are JSON texts unless another serializer is given. -/
def Serializer.json : Serializer := ⟨Payload.encode, Payload.decode⟩

/-- What turns errors into bodies and bodies into errors. -/
structure ErrorFormat where
  /-- The body of an error. -/
  write : ErrorBody → Outcome Bytes
  /-- The error in a body, or the number of its faults. -/
  read : Bytes → Except Nat ErrorBody

/-- Errors are JSON objects. -/
def ErrorFormat.json : ErrorFormat where
  write body := if body.isSendable then .ok body.toBytes else .error (.silent .unwritable)
  read := ErrorBody.read

end RestContract

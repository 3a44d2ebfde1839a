import RestContract.Contract.Registry
import RestContract.Identity.Caller

/-!
# Handlers and their operations

A handler serves the endpoints of a group with one operation each, named like the
endpoint in small letters with underscores. An operation runs asynchronously; one that
streams its results may also generate them. Registering a group first checks that no
operation is missing and then registers them in the order of the endpoints.
-/

namespace RestContract

/-- What a handler function gives: a value, or events that may end in a failure. -/
inductive HandlerResult where
  /-- A value. -/
  | value (v : Value)
  /-- Events, one after the other. -/
  | events (items : List (Outcome Value))

/-- A result as a value; events are some object. -/
def HandlerResult.asValue : HandlerResult → Value
  | .value v => v
  | .events _ => .foreign .object

/-- Serves a request: from its input and its caller to a result. -/
abbrev HandlerFunction (m : Type → Type) := Value → Caller → m (Outcome HandlerResult)

/-- How a handler function runs. -/
inductive FunctionKind where
  /-- It runs asynchronously. -/
  | async
  /-- It runs at once. -/
  | sync
  /-- It generates events asynchronously. -/
  | generator
  deriving DecidableEq, Repr

/-- A named part of a handler. -/
inductive HandlerPart (m : Type → Type) where
  /-- A function. -/
  | function (kind : FunctionKind) (run : HandlerFunction m)
  /-- Something that is no function. -/
  | other

/-- A handler object. -/
structure Handler (m : Type → Type) where
  /-- The name of its class. -/
  className : String
  /-- The group that it serves, if it names one. -/
  group : Option GroupTag
  /-- Its parts by their names. -/
  parts : List (String × HandlerPart m)
  /-- Whether its class is a plain one, and so has no group unless it names one. -/
  isPlain : Bool

/-- A small letter or a digit, in ASCII. -/
def isLowOrDigit (c : Char) : Bool := c.isLower || c.isDigit

/-- Whether a word begins behind a character: before a capital that follows a small letter or a
digit, or begins a word. -/
def beginsWord (before : Char) : List Char → Bool
  | [] => false
  | c :: rest =>
    c.isUpper && (isLowOrDigit before || (before.isUpper && (rest.head?.any Char.isLower)))

/-- A text with an underscore before every word but the first. -/
def breakWords : List Char → List Char
  | [] => []
  | c :: rest => if beginsWord c rest then c :: '_' :: breakWords rest else c :: breakWords rest

/-- The name of the operation for an endpoint. -/
def operationName (endpoint : String) : String :=
  Text.lower (String.ofList (breakWords endpoint.toList))

/-- An operation that the handler of a group has to provide. -/
structure Operation where
  /-- The name of the operation. -/
  name : String
  /-- The contract class that it serves. -/
  contract : RecordTag
  /-- The type of its results. -/
  output : ShapeRef
  /-- Whether results are sent as events. -/
  streaming : Bool

/-- The operation for a contract class. -/
def Registry.operationOf (r : Registry) (tag : RecordTag) : Outcome Operation := do
  let schema ← r.schemaOf tag
  pure ⟨operationName schema.name.plain, tag, schema.output, schema.streaming⟩

/-- The operations that the handler of a group has to provide, in order. -/
def Registry.operationsOf (r : Registry) (group : GroupTag) : Outcome (List Operation) := do
  (← r.contractsOf group).mapM r.operationOf

/-- Whether a part of a handler can serve as an operation. -/
def HandlerPart.serves (streaming : Bool) : HandlerPart m → Bool
  | .function .async _ => true
  | .function .generator _ => streaming
  | _ => false

namespace Handler

/-- A handler that names the group it serves: its part of that name is the group and no function. -/
def serving (group : GroupTag) (h : Handler m) : Handler m :=
  { h with group := some group, parts := storeName "group" .other h.parts }

/-- The part of a name. -/
def part? (h : Handler m) (name : String) : Option (HandlerPart m) := h.parts.lookup name

/-- Whether a handler provides an operation. -/
def provides (h : Handler m) (op : Operation) : Bool :=
  (h.part? op.name).any (·.serves op.streaming)

/-- Refuses a handler that lacks operations of a group. -/
def check (h : Handler m) (r : Registry) (group : GroupTag) : Outcome Unit := do
  let operations ← r.operationsOf group
  let missing := (operations.filter fun op => !h.provides op).map (·.name)
  if missing.isEmpty then pure ()
  else .error (.contract (.incompleteHandler group.name missing))

end Handler

/-- A step that registers something; what it had registered stays when it fails. -/
abbrev Registering (σ α : Type) := ExceptT Failure (StateM σ) α

/-- Registers a part of a handler as the operation of a contract class. -/
abbrev Registrar (m : Type → Type) (σ : Type) :=
  RecordTag → HandlerPart m → String → Registering σ Unit

namespace Registering

/-- The result of something that registers nothing. -/
def lift (o : Outcome α) : Registering σ α :=
  match o with
  | .ok a => pure a
  | .error e => throw e

end Registering

/-- Registers the operations of a group with the parts of a handler. -/
def registerGroup (r : Registry) (register : Registrar m σ) (group : GroupTag) (h : Handler m) :
    Registering σ Unit := do
  Registering.lift (h.check r group)
  let operations ← Registering.lift (r.operationsOf group)
  operations.forM fun op => register op.contract ((h.part? op.name).getD .other) op.name

/-- Registers the group of a handler, which has to name one. -/
def registerHandler (r : Registry) (register : Registrar m σ) (h : Handler m) :
    Registering σ Unit :=
  match h.group with
  | none => throw (.refuse (.handlerWithoutGroup h.className))
  | some group => registerGroup r register group h

/-- Registers the groups of several handlers, of which there has to be one. -/
def registerHandlers (r : Registry) (register : Registrar m σ) (handlers : List (Handler m)) :
    Registering σ Unit :=
  if handlers.isEmpty then throw (.refuse .noHandlers)
  else handlers.forM (registerHandler r register)

end RestContract

import RestContract.Template.Pattern
import RestContract.Handler.Operation

/-!
# Route tables

A route joins an endpoint with the function that serves it. The table holds routes with
fewer holes first, then those with more literal characters, then by template. No two
routes of a method differ in the names of their holes only. A path leads to the first
route of its method that it matches.
-/

namespace RestContract

/-- Where the input of a route comes from. -/
inductive InputSource where
  /-- The values of the endpoint itself. -/
  | endpoint
  /-- An instance of a contract class. -/
  | contract (tag : RecordTag)

/-- An endpoint and the function that serves it. -/
structure Route (m : Type → Type) where
  /-- The endpoint. -/
  schema : EndpointSchema
  /-- Where the input comes from. -/
  source : InputSource
  /-- The function. -/
  handler : HandlerFunction m

namespace Route

variable {m : Type → Type}

/-- The pieces of the template of a route. -/
def pattern (r : Route m) : List Piece := Template.pattern r.schema.pathTemplate

/-- The normalized template of a route. -/
def template (r : Route m) : String := Template.normalize r.schema.pathTemplate

/-- What places a route in a table: its holes, its literal characters, its template. -/
def key (r : Route m) : Nat × Nat × String :=
  ((Template.holes r.pattern).length, Template.staticLength r.pattern, r.template)

/-- The texts that a path gives to the holes of a route. -/
def params? (r : Route m) (path : String) : Option (List (String × String)) :=
  Template.params? r.pattern path

/-- Whether two routes are for one method and for templates that differ in names only. -/
def clashes (r s : Route m) : Bool :=
  r.schema.method = s.schema.method && Template.skeleton r.pattern = Template.skeleton s.pattern

end Route

/-- Whether a route with one key may stand before a route with another one. -/
def keyLe (a b : Nat × Nat × String) : Bool :=
  if a.1 ≠ b.1 then a.1 < b.1
  else if a.2.1 ≠ b.2.1 then b.2.1 < a.2.1
  else a.2.2 ≤ b.2.2

/-- Puts a route behind all routes that may stand before it. -/
def insertRoute (new : Route m) : List (Route m) → List (Route m)
  | [] => [new]
  | r :: rest => if keyLe r.key new.key then r :: insertRoute new rest else new :: r :: rest

/-- A table of routes, with what verifies the tokens of callers and what reads and writes bodies. -/
structure Router (m : Type → Type) where
  /-- Verifies the tokens of callers, if anything does. -/
  verifier : Option (Verifier m)
  /-- Reads and writes bodies. -/
  serializer : Serializer
  /-- The routes in order. -/
  routes : List (Route m)

namespace Router

variable {m : Type → Type}

/-- A table with no routes. -/
def empty (verifier : Option (Verifier m)) (serializer : Serializer := .json) : Router m :=
  ⟨verifier, serializer, []⟩

/-- The table with one more route, unless there is one for the same paths already. -/
def register (r : Router m) (new : Route m) : Outcome (Router m) :=
  match r.routes.find? fun old => old.clashes new with
  | some old => .error (.refuse (.takenRoute new.schema.method old.template))
  | none => .ok { r with routes := insertRoute new r.routes }

/-- The first route of a method that a normalized path matches, with the texts of its holes. -/
def route? (r : Router m) (method : Method) (path : String) :
    Option (Route m × List (String × String)) :=
  r.routes.findSome? fun route =>
    if route.schema.method = method then (route.params? path).map fun params => (route, params)
    else none

/-- The route of a method to which a path leads, with the texts of its holes. -/
def lookup (r : Router m) (method : Method) (path : String) :
    Outcome (Route m × List (String × String)) :=
  match r.route? method (Template.normalize path) with
  | some found => .ok found
  | none =>
    .error (.http (.saying .notFound
      ("No route for " ++ method.name ++ " " ++ Template.normalize path)))

/-- Registers a function for an endpoint. -/
def registerEndpoint (e : EndpointSchema) (handler : HandlerFunction m) :
    Registering (Router m) Unit := do
  set (← Registering.lift ((← get).register ⟨e, .endpoint, handler⟩))

/-- Registers a function for a contract class. -/
def registerContract (registry : Registry) (tag : RecordTag) (handler : HandlerFunction m) :
    Registering (Router m) Unit := do
  let e ← Registering.lift (registry.schemaOf tag)
  set (← Registering.lift ((← get).register ⟨e, .contract tag, handler⟩))

/-- A part of a handler as a function; what is none fails when it is called. -/
def partFunction [Monad m] : HandlerPart m → HandlerFunction m
  | .function _ run => run
  | .other => fun _ _ => pure (.error (.silent .sort))

/-- Registers a group with the parts of a handler. -/
def mountGroup [Monad m] (registry : Registry) (group : GroupTag) (h : Handler m) :
    Registering (Router m) Unit :=
  registerGroup registry
    (fun tag part _ => registerContract registry tag (partFunction part)) group h

/-- Registers the group of a handler with its parts. Where none is named, the group is that of the
base class of handlers, which is none, and a plain class has no group at all. -/
def mountHandler [Monad m] (registry : Registry) (h : Handler m) : Registering (Router m) Unit :=
  match h.group with
  | none => throw (if h.isPlain then .silent .part else .refuse (.undeclaredGroup "None"))
  | some group => mountGroup registry group h

/-- Registers the groups of several handlers with their parts. -/
def mountHandlers [Monad m] (registry : Registry) (handlers : List (Handler m)) :
    Registering (Router m) Unit :=
  registerHandlers registry
    (fun tag part _ => registerContract registry tag (partFunction part)) handlers

end Router

end RestContract

import RestContract.Contract.Class
import RestContract.Endpoint.Extraction
import RestContract.Request.Build

/-!
# Declared classes

The registry knows the contract classes and the group classes, and what has been declared
of them. Declaring an endpoint keeps its declaration with the class, so that a group can
bind the class again as a member of its own; a class has the schema of its last binding.
A declaration that fails keeps what it had written before it failed.
-/

namespace RestContract

/-- A contract class and what has been declared of it. -/
structure ContractEntry where
  /-- The class. -/
  contract : ContractClass
  /-- The declaration that binding starts from, if there is one. -/
  declaration : Option EndpointDeclaration
  /-- The endpoint that the class is, if it has been bound. -/
  schema : Option EndpointSchema

/-- A group class and what has been declared of it. -/
structure GroupEntry where
  /-- The name of the class. -/
  name : String
  /-- The group that the class is, if it has been declared. -/
  schema : Option GroupSchema
  /-- The keys of the contract classes of the group, in order. -/
  contracts : List Nat

/-- What identifies a group class. -/
structure GroupTag where
  /-- Tells classes of the same name apart. -/
  key : Nat
  /-- The name of the class. -/
  name : String
  deriving DecidableEq, Repr

/-- The text of a group class in messages. -/
def GroupTag.shown (t : GroupTag) : String :=
  "<class " ++ Text.quoted (Shape.classSpace ++ t.name) ++ ">"

/-- The declared classes by their keys. -/
structure Registry where
  /-- The contract classes. -/
  contracts : List (Nat × ContractEntry)
  /-- The group classes. -/
  groups : List (Nat × GroupEntry)
  /-- A key that nothing has yet. -/
  nextKey : Nat

/-- Sets the entry of a key, in its place when the key is there and at the end otherwise. -/
def setEntry (key : Nat) (entry : α) : List (Nat × α) → List (Nat × α)
  | [] => [(key, entry)]
  | e :: rest => if e.1 = key then (key, entry) :: rest else e :: setEntry key entry rest

namespace Registry

/-- No classes at all. -/
def empty : Registry := ⟨[], [], 1⟩

/-- The entry of a contract class. -/
def contract? (r : Registry) (key : Nat) : Option ContractEntry := r.contracts.lookup key

/-- The entry of a group class. -/
def group? (r : Registry) (key : Nat) : Option GroupEntry := r.groups.lookup key

/-- The endpoint that a class is. -/
def schemaOf (r : Registry) (tag : RecordTag) : Outcome EndpointSchema :=
  match (r.contract? tag.key).bind (·.schema) with
  | some e => .ok e
  | none => .error (.refuse (.undeclaredEndpoint tag.name))

/-- The group that a class is. -/
def groupOf (r : Registry) (tag : GroupTag) : Outcome GroupSchema :=
  match (r.group? tag.key).bind (·.schema) with
  | some g => .ok g
  | none => .error (.refuse (.undeclaredGroup tag.shown))

/-- The contract classes of a group in the order in which they were bound. -/
def contractsOf (r : Registry) (tag : GroupTag) : Outcome (List RecordTag) := do
  let _ ← r.groupOf tag
  let keys := ((r.group? tag.key).map (·.contracts)).getD []
  pure (keys.filterMap fun key => (r.contract? key).map (·.contract.tag))

/-- The path of an instance's request, as its class makes it. -/
def resolvePath (r : Registry) (tag : RecordTag) (values : Values) : Outcome PathText := do
  let schema ← r.schemaOf tag
  let texts ← schema.pathTexts values
  match (r.contract? tag.key).bind (·.contract.resolver) with
  | some resolve => resolve texts
  | none => schema.resolvePath texts

/-- The body of an instance. -/
def encodeBody (r : Registry) (tag : RecordTag) (values : Values)
    (serializer : Serializer := .json) : Outcome (Option Bytes) := do
  values.refuseHidden ["encode_body"]
  (← r.schemaOf tag).encodeBody values serializer

/-- The request of an instance behind a base address. -/
def buildRequest (r : Registry) (tag : RecordTag) (values : Values) (base : Value)
    (serializer : Serializer := .json) : Outcome Request := do
  values.refuseHidden ["build_request"]
  let schema ← r.schemaOf tag
  let path ← r.resolvePath tag values
  schema.buildRequest values base (some path) serializer

/-- The instance of a class in the data of a request. -/
def decode (r : Registry) (tag : RecordTag) (data : RequestData)
    (serializer : Serializer := .json) : Outcome Value := do
  let schema ← r.schemaOf tag
  let values ← schema.decodeInput data serializer
  match r.contract? tag.key with
  | none => .error (.refuse (.undeclaredEndpoint tag.name))
  | some entry =>
    match entry.contract.instantiate values with
    | .error (.invalid n) =>
      .error (.http (.saying .malformedPayload
        ("Invalid input for " ++ tag.name ++ ": " ++ toString n ++ " validation error(s)")))
    | result => result

end Registry

/-- A step that declares something; what it had written stays when it fails. -/
abbrev Declaring (α : Type) := ExceptT Failure (StateM Registry) α

namespace Declaring

/-- Looks something up. -/
def ask (f : Registry → Outcome α) : Declaring α := do
  match f (← get) with
  | .ok a => pure a
  | .error e => throw e

/-- The result of something that looks nothing up. -/
def lift (o : Outcome α) : Declaring α := ask fun _ => o

/-- Changes the entry of a contract class. -/
def onContract (key : Nat) (f : ContractEntry → ContractEntry) : Declaring Unit :=
  modify fun r =>
    match r.contract? key with
    | some entry => { r with contracts := setEntry key (f entry) r.contracts }
    | none => r

/-- Changes the entry of a group class. -/
def onGroup (key : Nat) (f : GroupEntry → GroupEntry) : Declaring Unit :=
  modify fun r =>
    match r.group? key with
    | some entry => { r with groups := setEntry key (f entry) r.groups }
    | none => r

/-- A key that nothing else has. -/
def fresh : Declaring Nat := do
  let r ← get
  set { r with nextKey := r.nextKey + 1 }
  pure r.nextKey

/-- Makes a contract class known. -/
def addContract (c : ContractClass) : Declaring Unit :=
  modify fun r => { r with contracts := setEntry c.tag.key ⟨c, none, none⟩ r.contracts }

/-- Makes a group class known. -/
def addGroup (tag : GroupTag) : Declaring Unit :=
  modify fun r => { r with groups := setEntry tag.key ⟨tag.name, none, []⟩ r.groups }

/-- Makes a class a member of a group: first of the list of members, then of that of classes. -/
def join (group : GroupTag) (key : Nat) (schema : EndpointSchema) : Declaring Unit := do
  let g ← ask (·.groupOf group)
  let g ← lift (g.add schema)
  onGroup group.key fun entry =>
    { entry with schema := some g, contracts := entry.contracts ++ [key] }

/-- Makes a class the endpoint that its declaration describes, in a group or in none. -/
def bind (key : Nat) (group : Option GroupTag) : Declaring EndpointSchema := do
  let header ← match group with
    | none => pure none
    | some tag => do pure (some (← ask (·.groupOf tag)).header)
  match ((← get).contract? key).bind (·.declaration) with
  | none => throw (.silent .part)
  | some declaration =>
    let schema ← lift (declaration.extract header)
    match group with
    | none => pure ()
    | some tag => join tag key schema
    onContract key fun entry => { entry with schema := some schema }
    pure schema

/-- Binds a class as a member of a group, if it has been declared at all. -/
def adopt (group : GroupTag) (key : Nat) : Declaring Unit := do
  if (((← get).contract? key).bind (·.declaration)).isSome then
    let _ ← bind key (some group)
  else pure ()

end Declaring

/-- What is given with the declaration of an endpoint. -/
structure EndpointArguments where
  /-- The method. -/
  method : Value
  /-- The path. -/
  path : Value
  /-- The type of results. -/
  output : ShapeRef
  /-- The group, if one is given. -/
  group : Option GroupTag
  /-- Whether the holes of the path have to be the path fields. -/
  checkPath : Bool
  /-- Whether results are sent as events. -/
  streaming : Bool

/-- Declares a class as an endpoint; `none` stands for something that is no contract class. -/
def declareEndpoint (args : EndpointArguments)
    (target : Option Nat) : Declaring EndpointSchema := do
  let method ← Declaring.lift (Method.ofValue args.method)
  if args.path.asText?.isNone then throw (.refuse (.pathArgument args.path))
  let registry ← get
  match target.bind fun key => (registry.contract? key).map (key, ·) with
  | none => throw (.refuse .notContract)
  | some (key, entry) =>
    let c := entry.contract
    let declaration : EndpointDeclaration := {
      name := .text c.tag.name
      method := .text method.name
      path := args.path
      fields := c.declaredFields
      output := args.output
      streaming := args.streaming
      checkPath := args.checkPath && c.resolver.isNone
      resolver := none }
    Declaring.onContract key fun entry => { entry with declaration := some declaration }
    Declaring.bind key args.group

/-- Declares a class as a group and binds the declared ones of its members; `none` stands for no
plain class. -/
def declareGroup (path auth : Value) (target : Option GroupTag)
    (members : List Nat) : Declaring GroupSchema := do
  if path.asText?.isNone then throw (.refuse .groupPathArgument)
  let auth ← Declaring.lift (Auth.ofValue auth)
  match target with
  | none => throw (.refuse .notPlainClass)
  | some tag =>
    let key ← Declaring.fresh
    let start ← Declaring.lift
      (GroupDeclaration.start ⟨.text tag.name, path, .member auth.member, []⟩ key)
    Declaring.onGroup tag.key fun entry => { entry with schema := some start, contracts := [] }
    members.forM (Declaring.adopt tag)
    Declaring.ask (·.groupOf tag)

end RestContract

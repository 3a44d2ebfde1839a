import RestContract.Endpoint.Kinds

/-!
# Why declarations are refused

Each fault names what was declared and what is wrong with it. A fault of shape means
that something of the wrong sort was declared; every other fault is one of arguments.
-/

namespace RestContract

/-- A fragment of a message. -/
inductive Fragment where
  /-- Words. -/
  | words (s : String)
  /-- The plain text of a value. -/
  | plain (v : Value)
  /-- The plain text of a value between single quotes. -/
  | named (v : Value)
  /-- An endpoint and one of its fields between single quotes. -/
  | field (endpoint name : Value)
  /-- The quoted text of a value. -/
  | quoted (v : Value)

namespace Fragment

instance : Coe String Fragment := ⟨words⟩

/-- A fragment as a text. -/
def text : Fragment → String
  | .words s => s
  | .plain v => v.plain
  | .named v => "'" ++ v.plain ++ "'"
  | .field endpoint name => "'" ++ endpoint.plain ++ "." ++ name.plain ++ "'"
  | .quoted v => v.quoted

/-- Why a fragment has no text, if it has none. -/
def unshown? : Fragment → Option Value.Unshown
  | .words _ => none
  | .plain v => v.uninserted?
  | .named v => v.uninserted?
  | .field endpoint name => endpoint.uninserted?.or name.uninserted?
  | .quoted v => v.unquoted?

end Fragment

/-- Why a declaration is refused. -/
inductive DeclarationFault where
  /-- A document names a type that does not exist. -/
  | unknownType (type : Value)
  /-- A field has markers of several roles. -/
  | conflictingRoles (field : Value)
  /-- A path or query field has values that are not sent as texts. -/
  | notSentAsText (field : Value) (role : Role) (type : ShapeRef)
  /-- A field that is no query field has a default. -/
  | misplacedDefault (field : Value)
  /-- Something names no method. -/
  | unknownMethod (given : Value)
  /-- Something names no authentication requirement. -/
  | unknownAuth (given : Value)
  /-- The path of an endpoint is no text. -/
  | endpointPath (endpoint : Value)
  /-- An endpoint has several bodies. -/
  | severalBodies (endpoint : Value) (fields : List String)
  /-- Two query fields have one name on the wire. -/
  | repeatedQuery (wireName endpoint : Value)
  /-- A path field has no hole in the path. -/
  | fieldWithoutHole (field endpoint : Value) (path : String)
  /-- A hole in the path has no path field. -/
  | holeWithoutField (path : String) (endpoint : Value) (hole : String)
  /-- A group has no path. -/
  | groupWithoutPath (group : Value)
  /-- The path of a group is no text. -/
  | groupPath (group : Value)
  /-- The path of a group has holes. -/
  | groupPathHoles (group : Value)
  /-- An endpoint is added to a group for which it was not made. -/
  | strayMember (endpoint group : Value)
  /-- A group has an endpoint of that name already. -/
  | takenMember (group endpoint : Value)
  /-- A document is no mapping. -/
  | documentShape
  /-- A group of a document is no mapping. -/
  | groupShape (group : Value)
  /-- An endpoint of a document is no mapping. -/
  | endpointShape (endpoint : Value)
  /-- A parameter of a document is neither a mapping nor a type name. -/
  | parameterShape (endpoint field : Value)
  /-- An endpoint of a document has no method. -/
  | missingMethod (endpoint : Value)
  /-- A parameter of a document has a role that does not exist. -/
  | unknownRole (endpoint field role : Value)
  /-- A parameter that is not in the query has a name on the wire. -/
  | misplacedName (endpoint field : Value)
  /-- The default of a parameter is none of its values. -/
  | foreignDefault (default endpoint field : Value)
  /-- A parameter of a document lacks its list of values. -/
  | missingValues (endpoint field : Value)
  /-- A document is not well-formed. -/
  | malformedDocument (reason : String)
  /-- A class is no declared endpoint. -/
  | undeclaredEndpoint (className : String)
  /-- Something is no declared group. -/
  | undeclaredGroup (shown : String)
  /-- Something that is no contract class is declared as an endpoint. -/
  | notContract
  /-- Something that is no plain class is declared as a group. -/
  | notPlainClass
  /-- The path given with an endpoint declaration is no text. -/
  | pathArgument (given : Value)
  /-- A group declaration has no path that is a text. -/
  | groupPathArgument
  /-- A route of that method and template is registered already. -/
  | takenRoute (method : Method) (template : String)
  /-- No handlers were given. -/
  | noHandlers
  /-- A handler names no group. -/
  | handlerWithoutGroup (className : String)

namespace DeclarationFault

/-- Whether something of the wrong sort was declared. -/
def isShape : DeclarationFault → Bool
  | .documentShape => true
  | .groupShape _ => true
  | .endpointShape _ => true
  | .parameterShape _ _ => true
  | .malformedDocument _ => true
  | .undeclaredEndpoint _ => true
  | .undeclaredGroup _ => true
  | .notContract => true
  | .notPlainClass => true
  | _ => false

/-- What stands where a shape is expected, in a message. -/
def typeFragment : ShapeRef → Fragment
  | .shape s => s.message
  | .plain v => .quoted v

/-- What is wrong, in fragments of a message. -/
def fragments : DeclarationFault → List Fragment
  | .unknownType type => ["Unsupported parameter type: ", .plain type]
  | .conflictingRoles field => ["Field ", .named field, " has conflicting role markers"]
  | .notSentAsText field role type =>
    ["Field ", .named field, " has unsupported ", role.name, " parameter type: ", typeFragment type]
  | .misplacedDefault field =>
    ["Only query parameters may declare a default value (", .named field, ")"]
  | .unknownMethod given => ["Endpoint requires a valid HTTPMethod argument, got ", .quoted given]
  | .unknownAuth given => ["Unknown auth requirement: ", .quoted given]
  | .endpointPath endpoint => ["Endpoint ", .named endpoint, " path must be a string"]
  | .severalBodies endpoint fields =>
    ["Endpoint ", .named endpoint, " declares more than one body parameter: ",
      ", ".intercalate fields]
  | .repeatedQuery wireName endpoint =>
    ["Duplicate query parameter name ", .named wireName, " in ", .named endpoint]
  | .fieldWithoutHole field endpoint path =>
    ["Path parameter ", .named field, " of ", .named endpoint,
      " does not appear in path '", path, "'"]
  | .holeWithoutField path endpoint hole =>
    ["Path '", path, "' of ", .named endpoint, " has no path parameter for ':", hole, "'"]
  | .groupWithoutPath group => ["Group ", .named group, " requires a 'path' argument"]
  | .groupPath group => ["Group ", .named group, " path must be a string"]
  | .groupPathHoles group => ["Group ", .named group, " base path may not contain placeholders"]
  | .strayMember endpoint group =>
    ["Endpoint ", .named endpoint, " was not extracted for group ", .named group]
  | .takenMember group endpoint =>
    ["Group ", .named group, " already has an endpoint named ", .named endpoint]
  | .documentShape => ["Contract document must be a mapping"]
  | .groupShape group => ["Group ", .named group, " must be a mapping"]
  | .endpointShape endpoint => ["Endpoint ", .named endpoint, " must be a mapping"]
  | .parameterShape endpoint field =>
    ["Parameter ", .field endpoint field, " must be a mapping or a type name"]
  | .missingMethod endpoint => ["Endpoint ", .named endpoint, " requires a 'method'"]
  | .unknownRole endpoint field role =>
    ["Parameter ", .field endpoint field, " has unknown role ", .named role]
  | .misplacedName endpoint field =>
    ["Only query parameters may rename their wire name (", .field endpoint field, ")"]
  | .foreignDefault default endpoint field =>
    ["Default ", .named default, " is not a value of ", .field endpoint field]
  | .missingValues endpoint field =>
    ["Enum parameter ", .field endpoint field, " requires a list of 'values'"]
  | .malformedDocument reason => ["Invalid YAML: ", reason]
  | .undeclaredEndpoint className => [className, " is not declared with @endpoint"]
  | .undeclaredGroup shown => [shown, " is not declared with @api_group"]
  | .notContract => ["@endpoint can only be applied to Contract subclasses"]
  | .notPlainClass => ["@api_group can only be applied to plain classes"]
  | .pathArgument given => ["Endpoint path must be a string, got ", .quoted given]
  | .groupPathArgument => ["@api_group requires 'path' argument"]
  | .takenRoute method template => ["Route already registered: ", method.name, " ", template]
  | .noHandlers => ["register_services requires at least one handler"]
  | .handlerWithoutGroup className => [className, " does not declare a group"]

/-- What is wrong, in words. -/
def message (f : DeclarationFault) : String := String.join (f.fragments.map (·.text))

/-- Why what is wrong cannot be said, if a value in the message has no text. -/
def unsaid? (f : DeclarationFault) : Option Value.Unshown := f.fragments.findSome? (·.unshown?)

end DeclarationFault

end RestContract

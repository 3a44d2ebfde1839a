import RestContract.Value.Shape
import RestContract.Value.Display

/-!
# Kinds of endpoints and parameters

An endpoint has a method. A parameter plays one role in a request and is of one of a few
types.
-/

namespace RestContract

/-- The method of an endpoint. -/
inductive Method where
  | get
  | post
  | put
  | patch
  | delete
  | head
  | options
  deriving DecidableEq, Repr, Inhabited

namespace Method

/-- All methods. -/
def all : List Method := [.get, .post, .put, .patch, .delete, .head, .options]

/-- The name of a method. -/
def name : Method → String
  | .get => "GET"
  | .post => "POST"
  | .put => "PUT"
  | .patch => "PATCH"
  | .delete => "DELETE"
  | .head => "HEAD"
  | .options => "OPTIONS"

/-- The method of a name. -/
def ofName? (s : String) : Option Method := all.find? fun m => m.name = s

/-- Every method is found by its name. -/
@[simp] theorem ofName?_name (m : Method) : ofName? m.name = some m := by cases m <;> decide

end Method

/-- The role of a parameter in a request. -/
inductive Role where
  | path
  | query
  | body
  deriving DecidableEq, Repr, Inhabited

/-- The name of a role. -/
def Role.name : Role → String
  | .path => "path"
  | .query => "query"
  | .body => "body"

/-- The type of a parameter. -/
inductive ParamType where
  /-- Any text. -/
  | string
  /-- A whole number. -/
  | integer
  /-- A floating-point number. -/
  | float
  /-- A truth value. -/
  | boolean
  /-- A date with a clock time. -/
  | date
  /-- A calendar date. -/
  | dateOnly
  /-- A member of a class of texts. -/
  | enum
  /-- Anything that a body can hold. -/
  | json
  deriving DecidableEq, Repr, Inhabited

namespace ParamType

/-- All types. -/
def all : List ParamType := [.string, .integer, .float, .boolean, .date, .dateOnly, .enum, .json]

/-- The name of a type. -/
def name : ParamType → String
  | .string => "string"
  | .integer => "integer"
  | .float => "float"
  | .boolean => "boolean"
  | .date => "date"
  | .dateOnly => "date-only"
  | .enum => "enum"
  | .json => "json"

/-- The type of a name. -/
def ofName? (s : String) : Option ParamType := all.find? fun t => t.name = s

/-- The type that a document names; classes of texts have no name there. -/
def ofDocumentName? (s : String) : Option ParamType := (ofName? s).filter (· ≠ .enum)

/-- Every type is found by its name. -/
@[simp] theorem ofName?_name (t : ParamType) : ofName? t.name = some t := by cases t <;> decide

end ParamType

end RestContract

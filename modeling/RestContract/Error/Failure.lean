import RestContract.Error.Declaration
import RestContract.Error.Http
import RestContract.Time.Iso
import RestContract.Number.Numeral

/-!
# Failures

Whatever goes wrong is a failure: one of the library's own errors, a number of faults in
values, a text that is no value of its type, a reference to no endpoint, or a fault of
what was handed over. Each has a text.
-/

namespace RestContract

/-- An error of the library itself. -/
inductive ContractError where
  /-- An error that somebody stated in words. -/
  | stated (message : String)
  /-- A declaration error that somebody stated in words. -/
  | statedDeclaration (message : String)
  /-- A fault of arguments that somebody stated in words. -/
  | statedArguments (message : String)
  /-- A fault of shape that somebody stated in words. -/
  | statedShape (message : String)
  /-- A declaration is refused. -/
  | declaration (fault : DeclarationFault)
  /-- A handler lacks operations of its group. -/
  | incompleteHandler (group : String) (missing : List String)
  /-- A path has no base address to stand behind. -/
  | invalidUrl (path : String)
  /-- An error that a server answers with. -/
  | http (e : HttpError)
  /-- A server answered with an error. -/
  | response (status : Int) (body : ErrorBody)
  /-- A server answered with an error, as somebody stated in words. -/
  | statedResponse (message : String)

/-- The text of an error. -/
def ContractError.message : ContractError → String
  | .stated message => message
  | .statedDeclaration message => message
  | .statedArguments message => message
  | .statedShape message => message
  | .declaration fault => fault.message
  | .incompleteHandler group missing =>
    "Handler for group '" ++ group ++ "' is missing operations: " ++ ", ".intercalate missing
  | .invalidUrl path => "Invalid URL path: " ++ path
  | .http e => e.words
  | .response status body => toString status ++ " " ++ body.code ++ ": " ++ body.message
  | .statedResponse message => message

/-- The names of the kinds of an error, the narrowest first. -/
def ContractError.kindNames (e : ContractError) : List String :=
  (match e with
    | .stated _ => []
    | .statedDeclaration _ => ["DeclarationError"]
    | .statedArguments _ => ["InvalidArguments", "DeclarationError"]
    | .statedShape _ => ["InvalidDeclarationShape", "DeclarationError"]
    | .declaration fault =>
      [if fault.isShape then "InvalidDeclarationShape" else "InvalidArguments", "DeclarationError"]
    | .incompleteHandler _ _ => ["HandlerContractError", "DeclarationError"]
    | .invalidUrl _ => ["InvalidURL"]
    | .http h => h.kind.lineage.map (·.name)
    | .response _ _ => ["APIResponseError"]
    | .statedResponse _ => ["APIResponseError"]) ++ ["ContractError"]

/-- Why a text is no value of a parameter's type. -/
inductive TextFault where
  /-- The text is no whole number. -/
  | notInteger (text : String)
  /-- The text is no number. -/
  | notNumber (text : String)
  /-- The text is no truth value. -/
  | notBoolean (text : String)
  /-- The whole number has too many digits. -/
  | tooManyDigits (count : Nat)
  /-- The text is no date or moment. -/
  | notDate (text : String) (reason : Iso.ReadError)
  /-- The text stands for no member of a class. -/
  | notMember (text className : String)
  /-- The class of a text that stands for no member cannot say so. -/
  | unanswered
  /-- Values of the type are not sent as texts. -/
  | notText (type : ParamType)
  deriving Repr

/-- What is wrong with a text, in words. -/
def TextFault.message : TextFault → String
  | .notInteger text => "not an integer: " ++ Text.quoted text
  | .notNumber text => "not a number: " ++ Text.quoted text
  | .notBoolean text => "not a boolean: " ++ Text.quoted text
  | .tooManyDigits count =>
    "Exceeds the limit (" ++ toString Number.maxDigits ++
      " digits) for integer string conversion: value has " ++ toString count ++
      " digits; use sys.set_int_max_str_digits() to increase the limit"
  | .notDate text reason => reason.message (Text.quoted text)
  | .notMember text className => Text.quoted text ++ " is not a valid " ++ className
  | .unanswered => ""
  | .notText type => type.name ++ " parameters are not sent as text"

/-- Why a reference leads to no endpoint. -/
inductive ReferenceFault where
  /-- No endpoint has that name. -/
  | unknown (ref : Value)
  /-- Several endpoints have that name. -/
  | ambiguous (ref : Value)

/-- What is wrong with a reference, in words. -/
def ReferenceFault.message : ReferenceFault → String
  | .unknown ref => "No endpoint named '" ++ ref.plain ++ "'"
  | .ambiguous ref => "Endpoint name '" ++ ref.plain ++ "' is ambiguous; use Group.Endpoint"

/-- The sort of a fault of what was handed over. -/
inductive FaultKind where
  /-- A value lacks a part that was asked for. -/
  | part
  /-- A value is of the wrong sort for what was done with it. -/
  | sort
  /-- A value is of the right sort, but there is no such value. -/
  | value
  /-- Nothing is stored under a key. -/
  | key
  /-- Nothing stands at a place. -/
  | place
  /-- A folder stands where a file was expected. -/
  | folder
  /-- A value left its range. -/
  | range
  /-- A handler or provider stopped with a message of its own. -/
  | stopped
  /-- Nothing is known about how to write or read such a value. -/
  | unknownKind
  /-- A part of a value cannot be written. -/
  | unwritable
  /-- A value is nested too deeply. -/
  | nesting
  /-- A bound cannot be one of the values of a field. -/
  | bound
  /-- A field has a name that no field may have. -/
  | fieldName
  /-- A text holds half of a surrogate pair where it has to be encoded. -/
  | encoding
  /-- A name that a class needs for itself is given to a field. -/
  | ownName
  deriving DecidableEq, Repr

/-- Why something did not succeed. -/
inductive Failure where
  /-- An error of the library itself. -/
  | contract (e : ContractError)
  /-- Values have so many faults. -/
  | invalid (count : Nat)
  /-- A text is no value of its type. -/
  | text (fault : TextFault)
  /-- A reference leads to no endpoint. -/
  | reference (fault : ReferenceFault)
  /-- Something that was handed over is at fault. -/
  | fault (kind : FaultKind) (message : String)

namespace Failure

/-- The failure with an error that a server answers with. -/
def http (e : HttpError) : Failure := .contract (.http e)

/-- The failure of a fault with no words of its own. -/
def silent (kind : FaultKind) : Failure := .fault kind ""

/-- The failure to show a value that has no text. -/
def ofUnshown : Value.Unshown → Failure
  | .digits => silent .value
  | .member => silent .sort

/-- The failure of a refused declaration, or the failure to say why it is refused. -/
def refuse (fault : DeclarationFault) : Failure :=
  match fault.unsaid? with
  | none => .contract (.declaration fault)
  | some u => ofUnshown u

/-- The failure of a parameter that is missing at a place of the request,
or the failure to name it. -/
def missingParameter (name : Value) (location : String) : Failure :=
  match name.uninserted? with
  | none => .contract (.http (.missingParameter name location))
  | some u => ofUnshown u

/-- The failure of a text that is no value of its type. -/
def ofText : TextFault → Failure
  | .unanswered => silent .sort
  | f => .text f

/-- The failure of a value that was refused for its shape. -/
def ofRefusal : Refusal → Failure
  | .faults n => .invalid n
  | .incomparable => silent .sort

/-- The failure of a value that cannot be written. -/
def ofWriteFault : Json.WriteFault → Failure
  | .unknownKind => silent .unknownKind
  | .uncheckable => silent .part
  | .unwritable => silent .unwritable

/-- The text of a failure. -/
def message : Failure → String
  | .contract e => e.message
  | .invalid count => toString count ++ " validation error" ++ (if count = 1 then "" else "s")
  | .text f => f.message
  | .reference f => f.message
  | .fault _ words => words

/-- The error that a server answers with, if the failure is one. -/
def asHttp? : Failure → Option HttpError
  | .contract (.http e) => some e
  | _ => none

end Failure

/-- The result of something that may fail. -/
abbrev Outcome (α : Type) := Except Failure α

/-- What an error shows in a place, where there may be nothing. -/
def HttpError.part : Option Value → Outcome Value
  | some v => .ok v
  | none => .error (.silent .part)

/-- The number that is given as a status. -/
def HttpError.statusOf (v : Value) : Outcome Int :=
  match acceptInteger .caller v with
  | .ok ⟨.int n, _, _⟩ => .ok n
  | .ok _ => .error (.invalid 1)
  | .error refusal => .error (.ofRefusal refusal)

/-- The error on the wire, with other details when these are given. -/
def HttpError.toBody (e : HttpError) (details : Value) : Outcome ErrorBody := do
  let code ← part e.code
  let message ← part e.message
  let details ← if details.isNull then part e.details else .ok details
  (ErrorBody.accept .caller (.map
    [(.text "errorCode", code), (.text "message", message), (.text "details", details)])).mapError
      .invalid

/-- Something, unless a value that it needs to show has no text. -/
def unlessUnshown (u : Option Value.Unshown) (a : α) : Outcome α :=
  match u with
  | none => .ok a
  | some u => .error (.ofUnshown u)

/-- Whether a value counts as true; a member may lack the means to tell. -/
def Value.truth (v : Value) : Outcome Bool :=
  match v with
  | .member m => if m.lacks.contains .truth then .error (.silent .sort) else .ok v.isTruthy
  | v => .ok v.isTruthy

end RestContract

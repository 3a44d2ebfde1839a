import RestContract.Endpoint.Schema

/-!
# Path and query values on the wire

Values in a path or a query travel as plain texts: decimal numbers, `true` and `false`,
dates by their numbers, members of a class by the text that stands for them. Moments are
written as universal time to the second.
-/

namespace RestContract

/-- The plain text of a value, if it has one. -/
def Value.plainText (v : Value) : Outcome String := unlessUnshown v.unplain? v.plain

/-- A moment on the wire. -/
def Value.momentText : Value → Outcome String
  | .moment t =>
    match t.wireText? with
    | some s => .ok s
    | none => .error (.silent .range)
  | _ => .error (.silent .part)

/-- A date on the wire; a moment counts as its date. -/
def Value.dateText : Value → Outcome String
  | .moment t => .ok t.date.text
  | .date d => .ok d.text
  | _ => .error (.silent .part)

namespace Parameter

/-- The text of a value on the wire. -/
def encode (p : Parameter) (v : Value) : Outcome String :=
  match p.type with
  | .boolean => do pure (if ← v.truth then "true" else "false")
  | .date => v.momentText
  | .dateOnly => v.dateText
  | .enum =>
    match v with
    | .member m => .ok m.value
    | v => v.plainText
  | _ => v.plainText

/-- The whole number that a text stands for. -/
def readInteger (s : String) : Except TextFault Value :=
  match Number.WholeNumeral.ofText? s.toList with
  | none => .error (.notInteger s)
  | some w =>
    if w.digits.length > Number.maxDigits then .error (.tooManyDigits w.digits.length)
    else .ok (.int w.value)

/-- The floating-point number that a text stands for. -/
def readFloat (s : String) : Except TextFault Value :=
  match Number.DecimalNumeral.ofText? s.toList with
  | none => .error (.notNumber s)
  | some d => .ok (.float d.value)

/-- The truth value that a text stands for. -/
def readBoolean (s : String) : Except TextFault Value :=
  if s = "true" then .ok (.bool true)
  else if s = "false" then .ok (.bool false)
  else .error (.notBoolean s)

/-- The member that a text stands for; without a class every text stands for itself. -/
def readMember (valueType : ShapeRef) (s : String) : Except TextFault Value :=
  match valueType with
  | .shape (.enumeration c) =>
    match c.find? s with
    | some m => .ok (.member m)
    | none => .error (if c.lacks.contains .lookup then .unanswered else .notMember s c.name)
  | _ => .ok (.text s)

/-- The value that a text on the wire stands for. -/
def decode (p : Parameter) (s : String) : Except TextFault Value :=
  match p.type with
  | .string => .ok (.text s)
  | .integer => readInteger s
  | .float => readFloat s
  | .boolean => readBoolean s
  | .date => ((Iso.readMoment s.toList).map Value.moment).mapError (.notDate s)
  | .dateOnly => ((Iso.readDate s.toList).map Value.date).mapError (.notDate s)
  | .enum => readMember p.valueType s
  | .json => .error (.notText p.type)

end Parameter

end RestContract

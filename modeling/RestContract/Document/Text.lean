import RestContract.Document.Layout
import RestContract.Yaml.Document

/-!
# Contract documents as texts

A contract document is written in YAML. A text that is not well-formed is refused as a
declaration; a scalar that is no value of its type is a fault of its own.
-/

namespace RestContract

/-- The failure of a text that has no value. -/
def Yaml.Fault.toFailure : Yaml.Fault → Failure
  | .malformed => .refuse (.malformedDocument "the text is not well-formed")
  | .value => .silent .value
  | .truth => .silent .key
  | .form => .silent .part
  | .empty => .silent .place
  | .range => .silent .range
  | .kind => .silent .sort
  | .nesting => .silent .nesting

/-- What reads the value of a text. -/
abbrev Yaml.ValueReader := String → Except Yaml.Fault Value

/-- The document that a text describes. -/
def Document.ofText (text : String) (read : Yaml.ValueReader := Yaml.valueOf) :
    Outcome Document := do
  Document.ofValue (← (read text).mapError (·.toFailure))

end RestContract

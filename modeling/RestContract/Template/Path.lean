import RestContract.Template.Basic
import RestContract.Value.Display

/-!
# Paths as texts

The path of a group or an endpoint is a text, for which a member of a class of texts may
stand. Such a path is cut and searched like the text of the member, but inside a longer
text it stands with the plain text of the member.
-/

namespace RestContract

/-- A path, and how it stands inside a longer text. -/
structure PathText where
  /-- The path. -/
  text : String
  /-- How the path stands inside a longer text. -/
  shown : String
  deriving DecidableEq, Repr, Inhabited

namespace PathText

/-- The path that is a text of its own. -/
def of (s : String) : PathText := ⟨s, s⟩

instance : Coe String PathText := ⟨of⟩

/-- The path that a value is. -/
def ofValue? (v : Value) : Option PathText := v.asText?.map fun s => ⟨s, v.plain⟩

/-- Whether there is no path. -/
def isEmpty (p : PathText) : Bool := p.text.isEmpty

/-- Whether a path begins with a slash. -/
def isRooted (p : PathText) : Bool := p.text.toList.head? = some '/'

/-- A group's base path and an endpoint's own path in one template. -/
def join (base own : PathText) : PathText :=
  if own.isEmpty then base
  else if base.isEmpty then own
  else if own.isRooted then of (base.text ++ own.text)
  else of (base.shown ++ "/" ++ own.shown)

/-- Joining texts is joining the paths that they are. -/
theorem join_of (base own : String) : join (of base) (of own) = of (Template.join base own) := by
  simp only [join, Template.join, isEmpty, isRooted, of]
  by_cases ho : own.isEmpty
  · simp [ho]
  · by_cases hb : base.isEmpty
    · simp [ho, hb]
    · by_cases hr : own.toList.head? = some '/' <;> simp [ho, hb, hr]

end PathText

end RestContract

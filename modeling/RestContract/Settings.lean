import RestContract.Error.Failure
import RestContract.Text.Case

/-!
# Settings

Settings come from named texts of the surroundings: where requests go, the token that
they carry, how long to wait for an answer, and how much is logged.
-/

namespace RestContract

/-- The settings of a client. -/
structure Settings where
  /-- The base address of requests. -/
  baseUrl : String
  /-- The token that requests carry, empty when they carry none. -/
  token : String
  /-- How many seconds to wait for an answer. -/
  timeout : Value
  /-- The name of the level from which on things are logged. -/
  logLevel : String
  deriving Inhabited

namespace Settings

/-- The base address of requests when none is given. -/
def defaultBaseUrl : String := "http://localhost:8080"

/-- The shape of settings. -/
def shape : Shape :=
  .record ⟨0, "Settings", [], []⟩
    [⟨"base_url", .text, some (.text defaultBaseUrl), none, none⟩,
      ⟨"token", .text, some (.text ""), none, none⟩,
      ⟨"timeout", .float, some (.float 30.0), none, none⟩,
      ⟨"log_level", .text, some (.text "WARNING"), none, none⟩]

/-- The text of an accepted field. -/
def fieldText (name : String) (fields : List (String × Value)) : String :=
  ((fields.lookup name).bind (·.asText?)).getD ""

/-- The settings with the given values; what is not given has its default. -/
def ofValues (values : List (Value × Value)) : Outcome Settings :=
  match shape.accept .caller (.map values) with
  | .ok ⟨.record _ fields, _, _⟩ =>
    .ok ⟨fieldText "base_url" fields, fieldText "token" fields,
      (fields.lookup "timeout").getD .null, fieldText "log_level" fields⟩
  | .ok _ => .error (.invalid 1)
  | .error e => .error (.ofRefusal e)

/-- The number that a value stands for. -/
def numberOf : Value → Outcome Value
  | .float x => .ok (.float x)
  | .bool b => .ok (.float (if b then 1.0 else 0.0))
  | .int n =>
    if (Number.ofWhole n).isInf then .error (.silent .range) else .ok (.float (Number.ofWhole n))
  | v =>
    match v.asText? with
    | none => .error (.silent .sort)
    | some s =>
      match Number.floatOfText? s with
      | some x => .ok (.float x)
      | none => .error (.fault .value ("could not convert string to float: " ++ Text.quoted s))

/-- The name of a level in capitals. -/
def levelName (v : Value) : Outcome Value :=
  match v.asText? with
  | some s => .ok (.text (Text.upper s))
  | none => .error (.silent .part)

/-- The settings that the surroundings give by their names. -/
def ofSurroundings (values : List (Value × Value)) : Outcome Settings := do
  let given (name : String) (usual : String) := (lookupKey (.text name) values).getD (.text usual)
  let timeout ← numberOf (given "API_TIMEOUT" "30")
  let level ← levelName (given "API_CONTRACT_LOG_LEVEL" "WARNING")
  ofValues
    [(.text "base_url", given "API_BASE_URL" defaultBaseUrl), (.text "token", given "API_TOKEN" ""),
    (.text "timeout", timeout), (.text "log_level", level)]

end Settings

/-- The levels of log records by their names. -/
def logLevels : List (String × Int) :=
  [("CRITICAL", 50), ("FATAL", 50), ("ERROR", 40), ("WARN", 30), ("WARNING", 30), ("INFO", 20),
    ("DEBUG", 10), ("NOTSET", 0)]

/-- The level from which on things are logged; an unknown name counts as a warning, and a number is
a level itself. -/
def logLevel (v : Value) : Outcome Value :=
  match v.asText? with
  | some s => .ok (.int ((logLevels.lookup (Text.upper s)).getD 30))
  | none =>
    match v with
    | .int n => .ok (.int n)
    | .bool b => .ok (.bool b)
    | .null => .ok (.int 30)
    | _ => .error (.silent .sort)

end RestContract

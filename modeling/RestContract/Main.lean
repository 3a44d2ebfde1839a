import RestContract.CommandLine.Command

/-!
# The program

Reads the arguments, the variables and at most one file, and shows the report. A report of
something that went wrong goes to the error stream.
-/

namespace RestContract.CommandLine

/-- The names of the variables that the settings look at. -/
def variableNames : List String :=
  ["API_BASE_URL", "API_TOKEN", "API_TIMEOUT", "API_CONTRACT_LOG_LEVEL"]

/-- The variables of the surroundings that the settings look at. -/
def readVariables : IO Values := do
  let found ← variableNames.mapM fun name => do
    pure ((← IO.getEnv name).map fun s => (Value.text name, Value.text s))
  pure found.reduceOption

/-- Looks up what stands at a path. -/
def readEntry (path : String) : IO Entry := do
  try
    pure (.file (← IO.FS.readFile path))
  catch
    | .noFileOrDirectory .. => pure .absent
    | .inappropriateType .. => pure .folder
    | e => throw e

/-- Shows the result of a run and gives its exit code. -/
def showResult : Outcome Report → IO UInt32
  | .ok report => do
    let stream ← if report.exitCode = 0 then IO.getStdout else IO.getStderr
    stream.putStr report.output
    pure report.exitCode.toUInt32
  | .error f => do
    IO.eprintln f.message
    pure 1

/-- Runs a plan. -/
def runPlan : Outcome Plan → IO UInt32
  | .ok (.done report) => showResult (.ok report)
  | .ok (.look path go) => do showResult (go (← readEntry path))
  | .error f => showResult (.error f)

end RestContract.CommandLine

/-- Runs the program on its arguments. -/
def main (args : List String) : IO UInt32 := do
  RestContract.CommandLine.runPlan
    (RestContract.CommandLine.plan (← RestContract.CommandLine.readVariables) args)

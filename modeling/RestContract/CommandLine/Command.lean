import RestContract.CommandLine.Help
import RestContract.Document.Text
import RestContract.Request.Build
import RestContract.Settings
import RestContract.Json.Reader

/-!
# Commands

The program checks a contract document, lists its endpoints, or shows the request for one
of them. The arguments alone decide which file is read; what then happens depends on what
stands there. Errors of the library end the program with a message; any other failure is
left to whoever runs it.
-/

namespace RestContract.CommandLine

/-- What stands at a path. -/
inductive Entry where
  /-- Nothing stands there. -/
  | absent
  /-- A folder stands there. -/
  | folder
  /-- A file with a text stands there. -/
  | file (text : String)
  deriving DecidableEq, Repr

/-- The pieces of a path, without those that lead nowhere. -/
def pathPieces (path : String) : List String :=
  ((Text.splitAt '/' path.toList).map String.ofList).filter fun p => p ≠ "" && p ≠ "."

/-- A path as messages show it. -/
def shownPath (path : String) : String :=
  let inner := "/".intercalate (pathPieces path)
  if path.startsWith "/" then
    (if path.startsWith "//" && !path.startsWith "///" then "//" else "/") ++ inner
  else if inner.isEmpty then "." else inner

/-- What stands below a folder with the given files, by the pieces that lead there. -/
def entryBelow (files : List (String × String)) (pieces : List String) : Entry :=
  match files.find? fun f => pathPieces f.1 = pieces with
  | some f => .file f.2
  | none =>
    if files.any (pieces.isPrefixOf <| pathPieces ·.1) || pieces.isEmpty then .folder else .absent

/-- What the pieces of a path lead to from some place below a folder; of what is around it, nothing
is known by name. -/
def walk (files : List (String × String)) (place : List String) : List String → Entry
  | [] => entryBelow files place
  | piece :: rest =>
    if entryBelow files place ≠ .folder then .absent
    else if piece ≠ ".." then walk files (place ++ [piece]) rest
    else if place.isEmpty then (if rest.all (· = "..") then .folder else .absent)
    else walk files place.dropLast rest

/-- What stands at a path in a folder with the given files. -/
def entryAmong (files : List (String × String)) (path : String) : Entry :=
  let pieces := pathPieces path
  if path.isEmpty then .absent
  else if path.startsWith "/" then (if pieces.all (· = "..") then .folder else .absent)
  else
    match walk files [] pieces with
    | .file text => if path.endsWith "/" || path.endsWith "/." then .absent else .file text
    | entry => entry

/-- What remains to be done once the arguments are known. -/
inductive Plan where
  /-- All is done. -/
  | done (report : Report)
  /-- What stands at a path has to be known. -/
  | look (path : String) (go : Entry → Outcome Report)

/-- The commands. -/
inductive Command where
  /-- Checks a document. -/
  | check
  /-- Lists the endpoints of a document. -/
  | list
  /-- Shows a request. -/
  | request
  deriving DecidableEq, Repr

/-- The grammar of the program itself. -/
def program : Grammar where
  title := "main"
  about := "API Contract — inspect contract documents and build requests from them."
  operands := ["COMMAND", "[ARGS]..."]
  ownSwitches := [⟨.verbose, some 'v', "--verbose", none, false, "Enable debug logging."⟩]
  handsOn := true

namespace Command

/-- All commands with their names. -/
def all : List (String × Command) := [("check", .check), ("request", .request), ("show", .list)]

/-- What a command is good for. -/
def about : Command → String
  | .check => "Validate a YAML contract document."
  | .list => "List every endpoint with its method, path template and auth requirement."
  | .request => "Build and print the request for ENDPOINT (Group.Endpoint or a unique name)."

/-- The switches of a command. -/
def switches : Command → List Switch
  | .check => []
  | .list =>
    [⟨.listing, none, "--params", some "--no-params", false, "List each endpoint's parameters."⟩]
  | .request =>
    [⟨.parameter, some 'p', "--param", none, true, "Parameter value as name=value."⟩,
      ⟨.body, none, "--body", none, true, "JSON request body."⟩,
      ⟨.baseUrl, none, "--base-url", none, true, "Base URL (defaults to API_BASE_URL)."⟩]

/-- The name of the operand behind the document, if the command has one. -/
def secondOperand? : Command → Option String
  | .request => some "ENDPOINT"
  | _ => none

/-- The grammar of a command of a name. -/
def grammar (name : String) (c : Command) : Grammar :=
  ⟨program.title ++ " " ++ name, c.about, "CONTRACTS" :: c.secondOperand?.toList, c.switches, false⟩

end Command

/-- The page of help of the program. -/
def programHelp : String := program.helpPage (Command.all.map fun c => (c.1, c.2.grammar c.1))

/-- The report of an error that ends the program. -/
def stopped (message : String) : Report := Report.of 1 ("Error: " ++ message ++ "\n")

/-- The report on a result; errors of the library are told after some words. -/
def reportOf (words : String) (ok : α → Outcome Report) : Outcome α → Outcome Report
  | .ok a => ok a
  | .error (.contract e) => .ok (stopped (words ++ e.message))
  | .error f => .error f

/-- Refuses texts of which one holds half of a surrogate pair. -/
def refuseHalves (texts : List String) : Outcome Unit :=
  if texts.all Utf8.isWhole then .ok () else .error (.silent .encoding)

/-- The report that shows lines. -/
def shownLines (lines : List String) : Outcome Report := do
  refuseHalves lines
  pure (Report.of 0 (String.join (lines.map (· ++ "\n"))))

/-- The text of what stands at a path that is there. -/
def Entry.text : Entry → Outcome String
  | .file text => .ok text
  | _ => .error (.silent .folder)

/-- Goes on with the document of an entry. -/
def withDocument (path : String) (entry : Entry) (go : Document → Outcome Report)
    (read : Yaml.ValueReader := Yaml.valueOf) : Outcome Report := do
  reportOf (shownPath path ++ ": ") go (Document.ofText (← entry.text) read)

/-! ## Checking and listing -/

/-- The report on a document that is well-formed. -/
def checked (path : String) (d : Document) : Outcome Report :=
  shownLines [shownPath path ++ ": " ++ toString d.groups.length ++ " groups, " ++
    toString d.allEndpoints.length ++ " endpoints OK"]

/-- The line of a parameter in a list of endpoints. -/
def parameterLine (p : Parameter) : Outcome String :=
  unlessUnshown ((p.wireName.uninserted?.or (p.fallback.bind (·.unquoted?))).or p.name.uninserted?)
    ("      " ++ Text.padRight 5 p.role.name ++ " " ++ p.name.plain ++ ": " ++ p.type.name ++
      (if p.optional then "?" else "") ++
      (if p.wireName.sameKey p.name then "" else " as '" ++ p.wireName.plain ++ "'") ++
      (p.fallback.map fun v => " = " ++ v.quoted).getD "")

/-- The line of an endpoint in a list of endpoints. -/
def endpointLine (e : EndpointSchema) : Outcome String :=
  unlessUnshown (e.unnamed?.or e.name.uninserted?) <| Text.padRight 7 e.method.name ++ " " ++
    Text.padRight 40 (if e.pathTemplate.isEmpty then "/" else e.pathTemplate) ++ " " ++
    e.qualifiedName.plain ++ " [auth: " ++ e.auth.name ++ "]" ++
    (if e.streaming then " (stream)" else "")

/-- The lines of an endpoint, with those of its parameters if they are asked for. -/
def endpointLines (withParameters : Bool) (e : EndpointSchema) : Outcome (List String) := do
  let first ← endpointLine e
  let lines ← if withParameters then e.parameters.mapM parameterLine else pure []
  pure (first :: lines)

/-- The report that lists the endpoints of a document. -/
def listed (withParameters : Bool) (d : Document) : Outcome Report := do
  let lines ← d.allEndpoints.mapM (endpointLines withParameters)
  shownLines lines.flatten

/-! ## Requests -/

/-- The path or query parameter of a name; of several ones the last one counts. -/
def parameterNamed? (e : EndpointSchema) (name : String) : Option Parameter :=
  (e.parameters.reverse.find? (·.name.sameKey (.text name))).filter (·.role ≠ .body)

/-- Why arguments give no values. -/
inductive GivenFault where
  /-- The arguments are refused. -/
  | usage (fault : UsageFault)
  /-- Something else is at fault. -/
  | failure (f : Failure)

/-- Adds the value that a text such as `limit=5` gives to a parameter. -/
def addGiven (e : EndpointSchema) (values : Values) (given : String) : Except GivenFault Values :=
  let bad (reason : String) : Except GivenFault Values := .error (.usage (.badText "-p" reason))
  match Text.cut '=' given.toList with
  | (_, none) => bad ("Expected name=value, got '" ++ given ++ "'")
  | (name, some text) =>
    let name := String.ofList name
    match parameterNamed? e name with
    | none => bad ("'" ++ e.name.plain ++ "' has no path or query parameter '" ++ name ++ "'")
    | some p =>
      match p.decode (String.ofList text) with
      | .ok v => .ok (storeKey (.text name) v values)
      | .error .unanswered => .error (.failure (.ofText .unanswered))
      | .error f => bad (name ++ ": " ++ f.message)

/-- The value of a typed body. -/
def typedBody (s : String) : Except GivenFault Value :=
  match Json.read .typed s with
  | .ok v => .ok v
  | .error ⟨.digits _, _⟩ => .error (.failure (.silent .value))
  | .error ⟨.depth, _⟩ => .error (.failure (.silent .nesting))
  | .error e => .error (.usage (.badText "--body" ("Invalid JSON: " ++ e.message s)))

/-- Adds the typed body to the values. -/
def addBody (e : EndpointSchema) (values : Values) : Option String → Except GivenFault Values
  | none => .ok values
  | some s =>
    match e.bodyParameter? with
    | none => .error (.usage (.badText "--body" ("'" ++ e.name.plain ++ "' does not take a body")))
    | some p => (typedBody s).map fun v => storeKey p.name v values

/-- The values for an endpoint that are given by arguments. -/
def givenValues (e : EndpointSchema) (a : Arguments) : Except GivenFault Values := do
  let values ← (a.textsOf .parameter).foldlM (addGiven e) []
  addBody e values (a.text? .body)

/-- The report that shows a request. -/
def shownRequest (r : Request) : Outcome Report := do
  refuseHalves (r.path :: (r.query.getD []).flatMap fun q => [q.1, q.2])
  shownLines ([r.method.name ++ " " ++ r.url] ++ r.headers.map (fun h => h.1 ++ ": " ++ h.2) ++
    match r.body with
    | none => []
    | some body => ["", (Utf8.decode? body).getD ""])

/-- The report on the request for an endpoint of a document. -/
def requested (g : Grammar) (settings : Settings) (ref : String) (a : Arguments) (d : Document) :
    Outcome Report :=
  match d.find (.text ref) with
  | .error (.reference f) => .ok (stopped f.message)
  | .error f => .error f
  | .ok e =>
    match givenValues e a with
    | .error (.usage f) => .ok (g.refuse f)
    | .error (.failure f) => .error f
    | .ok values =>
      let base := (a.text? .baseUrl).filter (!·.isEmpty)
      reportOf "" shownRequest
        (e.buildRequest values (.text (base.getD settings.baseUrl)) none)

/-! ## Running -/

/-- Runs a command on the document of an entry, with the operands behind the document. -/
def Command.run (c : Command) (g : Grammar) (settings : Settings) (a : Arguments) (path : String)
    (rest : List String) (entry : Entry) : Outcome Report :=
  if path.toList.contains (Char.ofNat 0) then .error (.silent .value)
  else if entry = .absent then .ok (g.refuse (.nothingThere "CONTRACTS" path))
  else
    match c, rest with
    | .check, [] => withDocument path entry (checked path)
    | .list, [] => withDocument path entry (listed (a.isOn .listing true))
    | .request, [] => .ok (g.refuse (.missingOperand "ENDPOINT"))
    | .request, [ref] => withDocument path entry (requested g settings ref a)
    | .request, _ :: extra => .ok (g.refuse (.extraOperands extra))
    | _, extra => .ok (g.refuse (.extraOperands extra))

/-- The plan of a command for its arguments. -/
def Command.plan (c : Command) (g : Grammar) (settings : Settings) (args : List String) : Plan :=
  match g.read args with
  | .error f => .done (g.refuse f)
  | .ok a =>
    if a.asksHelp then .done ⟨0, g.helpPage []⟩
    else
      match a.operands with
      | [] => .done (g.refuse (.missingOperand "CONTRACTS"))
      | path :: rest => .look path (c.run g settings a path rest)

/-- The plan for words that name no command; switches among them are read once more. -/
def strayPlan (name : String) (rest : List String) : Report :=
  match program.read (name :: rest) with
  | .error f => program.refuse f
  | .ok a => if a.asksHelp then ⟨0, programHelp⟩
    else program.refuse (.unknownCommand name (Text.closeTo name (Command.all.map (·.1))))

/-- The plan of the program for its arguments and the variables around it. -/
def plan (surroundings : Values) (args : List String) : Outcome Plan :=
  match program.read args with
  | .error f => .ok (.done (program.refuse f))
  | .ok a =>
    if args.isEmpty then .ok (.done ⟨2, programHelp⟩)
    else if a.asksHelp then .ok (.done ⟨0, programHelp⟩)
    else
      match a.operands with
      | [] => .ok (.done (program.refuse .missingCommand))
      | name :: rest =>
        match Command.all.lookup name with
        | none => .ok (.done (strayPlan name rest))
        | some c => do pure (c.plan (c.grammar name) (← Settings.ofSurroundings surroundings) rest)

/-- Runs the program where the given files stand. -/
def run (files : List (String × String)) (surroundings : Values)
    (args : List String) : Outcome Report := do
  match ← plan surroundings args with
  | .done report => pure report
  | .look path go => go (entryAmong files path)

end RestContract.CommandLine

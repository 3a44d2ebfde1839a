import RestContract.Error.Failure

/-!
# Errors by name

Handlers and verifiers stop with errors that they name: any error of the library, or one
of two general ones. An error is made of values, which are given by their places or by
their names. Most errors take a message and details, some take values that are worked into
their message, and the others take what they are given as their text. Values that do not
fit an error are a fault of their own, told in words.
-/

namespace RestContract

/-- An error as it is named, with the values that it is made of. -/
structure StatedError where
  /-- The name of the error. -/
  name : String
  /-- The values by their places. -/
  values : List Value
  /-- The values by their names. -/
  named : List (String × Value)

/-- The word for the kind of a value. -/
def Value.kindName : Value → String
  | .null => "NoneType"
  | .bool _ => "bool"
  | .int _ => "int"
  | .float _ => "float"
  | .text _ => "str"
  | .bytes _ => "bytes"
  | .date _ => "datetime.date"
  | .moment _ => "datetime.datetime"
  | .member m => m.className
  | .list _ => "list"
  | .pair _ _ => "tuple"
  | .map _ => "dict"
  | .set _ => "set"
  | .record tag _ => tag.name
  | .foreign _ => "object"
  | .shared _ content => content.kindName
  | .again _ isMap => if isMap then "dict" else "list"

namespace StatedError

/-- The places that an error has for values: what makes it, their names, and how many of them are
needed. -/
structure Places where
  /-- What makes the error. -/
  maker : String
  /-- The names of the places. -/
  names : List String
  /-- How many places have to be filled. -/
  needed : Nat

/-- So many things of a kind. -/
def counted (n : Nat) (word : String) : String :=
  toString n ++ " " ++ word ++ (if n = 1 then "" else "s")

/-- What is wrong with values given by name, if anything is. -/
def Places.namedFault? (p : Places) (given : Nat) (named : List (String × Value)) : Option String :=
  named.findSome? fun n =>
    if !p.names.contains n.1 then
      some (p.maker ++ " got an unexpected keyword argument " ++ Text.quoted n.1)
    else if (p.names.take given).contains n.1 then
      some (p.maker ++ " got multiple values for argument " ++ Text.quoted n.1)
    else none

/-- What is wrong with the number of values given by place, if anything is. -/
def Places.excess? (p : Places) (given : Nat) : Option String :=
  if given ≤ p.names.length then none
  else
    let most := counted (p.names.length + 1) "positional argument"
    some (p.maker ++ " takes " ++
      (if p.needed < p.names.length then "from " ++ toString (p.needed + 1) ++ " to " ++ most
        else most) ++
      " but " ++ toString (given + 1) ++ " were given")

/-- What is wrong when places stay empty, if any do that have to be filled. -/
def Places.lack? (p : Places) (given : Nat) (named : List (String × Value)) : Option String :=
  match ((p.names.take p.needed).drop given).filter fun n => (named.lookup n).isNone with
  | [] => none
  | missing =>
    some (p.maker ++ " missing " ++ counted missing.length "required positional argument" ++ ": " ++
      " and ".intercalate (missing.map Text.quoted))

/-- The values in the places of an error; a place that stays empty holds the absent value. -/
def Places.fill (p : Places) (e : StatedError) : Except String (List Value) :=
  let given := e.values.length
  match ((p.namedFault? given e.named).or (p.excess? given)).or (p.lack? given e.named) with
  | some fault => .error fault
  | none => .ok (e.values ++ (p.names.drop given).map fun n => (e.named.lookup n).getD .null)

/-- The text of an error that takes what it is given. -/
def givenText : List Value → Outcome String
  | [] => .ok ""
  | [v] => unlessUnshown v.unplain? v.plain
  | vs => unlessUnshown (vs.findSome? (·.unquoted?))
    ("(" ++ ", ".intercalate (vs.map Value.quoted) ++ ")")

/-- The failure of an outcome that should be one. -/
def outcomeFailure : Outcome Failure → Failure
  | .ok f => f
  | .error f => f

/-- The errors that take what they are given, by their names. -/
def freeErrors : List (String × (String → Failure)) :=
  [("ContractError", fun s => .contract (.stated s)),
   ("DeclarationError", fun s => .contract (.statedDeclaration s)),
   ("InvalidDeclarationShape", fun s => .contract (.statedShape s)),
   ("InvalidArguments", fun s => .contract (.statedArguments s)),
   ("RuntimeError", .fault .stopped), ("ValueError", .fault .value)]

/-- The failure with a text into which a value is worked. -/
def working (v : Value) (make : String → Failure) : Failure :=
  outcomeFailure (unlessUnshown v.uninserted? (make v.plain))

/-- The parts of a value that are listed one after another, if it has any. -/
def partsOf? : Value → Option (List Value)
  | .text s => some (s.toList.map fun c => .text (String.ofList [c]))
  | .member m => some (m.value.toList.map fun c => .text (String.ofList [c]))
  | .bytes b => some (b.map fun x => .int x.toNat)
  | .list vs => some vs
  | .pair a b => some [a, b]
  | .set vs => some vs
  | .map es => some (es.map (·.1))
  | .record _ fields => some (fields.map fun f => .pair (.text f.1) f.2)
  | _ => none

/-- The first value that is no text, with its place. -/
def firstOther? (place : Nat) : List Value → Option (Nat × Value)
  | [] => none
  | v :: vs => if v.asText?.isSome then firstOther? (place + 1) vs else some (place, v)

/-- The failure of a handler that lacks operations of a group. -/
def incomplete (group missing : Value) : Failure :=
  match partsOf? missing with
  | none => .fault .sort "can only join an iterable"
  | some parts =>
    match firstOther? 0 parts with
    | some (place, v) =>
      .fault .sort ("sequence item " ++ toString place ++ ": expected str instance, " ++
        v.kindName ++ " found")
    | none => working group fun s => .contract (.incompleteHandler s (parts.filterMap (·.asText?)))

/-- The failure with the error in a server's answer; only a record has the parts of one. -/
def answered (status error : Value) : Failure :=
  match error with
  | .record _ fields =>
    match fields.lookup "error_code", fields.lookup "message" with
    | some code, some message =>
      outcomeFailure (unlessUnshown ([status, code, message].findSome? (·.uninserted?))
        (.contract (.statedResponse (status.plain ++ " " ++ code.plain ++ ": " ++ message.plain))))
    | none, _ => lacking "error_code"
    | some _, none => lacking "message"
  | _ => lacking "error_code"
where
  /-- The failure of an error without a part. -/
  lacking (part : String) : Failure :=
    .fault .part ("'" ++ error.kindName ++ "' object has no attribute " ++ Text.quoted part)

/-- The errors that work their values into their message: their places, and how they are made. -/
def workedErrors : List (String × Places × (Value → Value → Failure)) :=
  [("InvalidURL", ⟨"InvalidURL.__init__()", ["path"], 1⟩,
      fun v _ => working v fun s => .contract (.invalidUrl s)),
   ("InvalidToken", ⟨"InvalidToken.__init__()", ["reason"], 1⟩,
      fun v _ => working v fun s => .http (.invalidToken s)),
   ("AuthenticationFailed", ⟨"AuthenticationFailed.__init__()", ["reason"], 1⟩,
      fun v _ => working v fun s => .http (.authenticationFailed s)),
   ("MissingParameter", ⟨"MissingParameter.__init__()", ["name", "location"], 2⟩,
      fun name location => working location fun s => .missingParameter name s),
   ("HandlerContractError", ⟨"HandlerContractError.__init__()", ["group", "missing"], 2⟩,
     incomplete),
   ("APIResponseError", ⟨"APIResponseError.__init__()", ["status_code", "error"], 2⟩, answered)]

/-- The places of the errors that take a message and details. -/
def messagePlaces : Places := ⟨"HTTPError.__init__()", ["message", "details"], 0⟩

/-- The failure of an error made from the values in its places, or the failure to fill these. -/
def made (e : StatedError) (p : Places) (make : Value → Value → Failure) : Failure :=
  match p.fill e with
  | .error fault => .fault .sort fault
  | .ok vs => make (vs.headD .null) (vs.getLastD .null)

/-- The failure that an error is, or the failure to make it. -/
def toFailure (e : StatedError) : Failure :=
  match freeErrors.lookup e.name, workedErrors.lookup e.name, HttpErrorKind.ofName? e.name with
  | some make, _, _ =>
    if e.named.isEmpty then outcomeFailure ((givenText e.values).map make)
    else .fault .sort (e.name ++ "() takes no keyword arguments")
  | _, some (places, make), _ => e.made places make
  | _, _, some kind => e.made messagePlaces fun message details => .http (.of kind message details)
  | _, _, _ => .fault .key (Text.quoted e.name)

end StatedError

end RestContract

import RestContract.Yaml.Lexer
import RestContract.Yaml.Tag

/-!
# From tokens to nodes

A node is a scalar, a sequence or a mapping, each with its tag. Nodes are known by their
numbers, so that one node can stand in several places and even inside itself: an alias
stands for the node that its anchor names. A name may be given once in a document. A text
holds at most one document, and nodes are nested only so deeply.
-/

namespace RestContract.Yaml

/-- What a node holds. -/
inductive Content where
  /-- The text of a scalar. -/
  | scalar (text : String)
  /-- The numbers of the items of a sequence. -/
  | sequence (items : List Nat)
  /-- The numbers of the keys and values of a mapping. -/
  | mapping (entries : List (Nat × Nat))
  deriving Inhabited

/-- A node of a document. -/
structure Node where
  /-- The tag. -/
  tag : String
  /-- What the node holds. -/
  content : Content
  deriving Inhabited

/-- The nodes of a document by their numbers. -/
abbrev Graph := Array Node

/-- The tag of a type that every document knows. -/
def coreTag (name : String) : String := coreBeginning ++ name

/-- The name of a type that every document knows. -/
def CoreTag.name (t : CoreTag) : String := ((coreNames.find? fun n => n.2 = t).map (·.1)).getD ""

/-- How many nodes can stand inside one another. -/
def maxNesting : Nat := 480

/-- What is left of the tokens, and what has been read. -/
structure Reading where
  /-- The tokens left. -/
  tokens : List Token
  /-- The nodes. -/
  nodes : Graph
  /-- The numbers of the anchored nodes. -/
  anchors : List (String × Nat)
  /-- The beginnings of tags by their short forms. -/
  shorthands : List (String × String)

/-- A step of reading nodes. -/
abbrev Reader (α : Type) := StateT Reading (Except Fault) α

namespace Reader

/-- The next token, unless nothing can be read any more. -/
def peek : Reader (Option Token) := do
  match (← get).tokens.head? with
  | some (.broken fault) => throw fault
  | t => pure t

/-- Passes the next token. -/
def next : Reader Unit := modify fun r => { r with tokens := r.tokens.drop 1 }

/-- Fails. -/
def malformed : Reader α := throw .malformed

/-- Whether the next token is one of a few; the end counts as none of them. -/
def at? (ts : List Token) : Reader Bool := do
  match ← peek with
  | some t => pure (ts.contains t)
  | none => pure false

/-- Whether nothing or one of a few tokens is next. -/
def atEndOr (ts : List Token) : Reader Bool := do
  match ← peek with
  | some t => pure (ts.contains t)
  | none => pure true

/-- Adds a node. -/
def add (n : Node) : Reader Nat := do
  let id := (← get).nodes.size
  modify fun r => { r with nodes := r.nodes.push n }
  pure id

/-- Says what a node holds. -/
def hold (id : Nat) (content : Content) : Reader Unit :=
  modify fun r => { r with nodes := r.nodes.modify id fun n => { n with content := content } }

/-- Adds an absent value where a node is left out. -/
def emptyNode : Reader Nat := add ⟨coreTag "null", .scalar ""⟩

/-- The whole tag of a short form and what follows it. -/
def wholeTag (handle : Option String) (suffix : String) : Reader String := do
  match handle with
  | none => pure suffix
  | some h =>
    match (← get).shorthands.lookup h with
    | some beginning => pure (beginning ++ suffix)
    | none => malformed

/-- Reads an anchor and a tag in either order. -/
def properties : Reader (Option String × Option String) := do
  match ← peek with
  | some (.anchor a) =>
    next
    match ← peek with
    | some (.tag h s) =>
      next
      pure (some a, some (← wholeTag h s))
    | _ => pure (some a, none)
  | some (.tag h s) =>
    next
    match ← peek with
    | some (.anchor a) =>
      next
      pure (some a, some (← wholeTag h s))
    | _ => pure (none, some (← wholeTag h s))
  | _ => pure (none, none)

/-- Whether a tag leaves the type to the node itself. -/
def isOpen (tag : Option String) : Bool := tag.isNone || tag = some "!"

/-- Refuses a name that is given already. -/
def checkName (anchor : Option String) : Reader Unit := do
  match anchor with
  | none => pure ()
  | some a => if ((← get).anchors.lookup a).isSome then malformed

/-- Adds a node under its anchor. -/
def keep (anchor : Option String) (n : Node) : Reader Nat := do
  let id ← add n
  match anchor with
  | none => pure id
  | some a =>
    modify fun r => { r with anchors := (a, id) :: r.anchors }
    pure id

/-- The tag of a scalar: its own, or that of its text when it is plain. -/
def scalarTag (tag : Option String) (plain : Bool) (text : String) : String :=
  match tag with
  | some "!" => coreTag (plainTag text).name
  | some t => t
  | none => if plain then coreTag (plainTag text).name else coreTag "str"

/-- The tag of a collection: its own, or the usual one. -/
def collectionTag (tag : Option String) (usual : String) : String :=
  if isOpen tag then coreTag usual else tag.getD ""

/-- Adds a node of which there is nothing but an anchor or a tag. -/
def bare (anchor tag : Option String) : Reader Nat :=
  if anchor.isNone && tag.isNone then malformed
  else keep anchor ⟨scalarTag tag true "", .scalar ""⟩

mutual

/-- Reads a node; in a block it may be a block itself, and as a value also entries without a block
of their own. -/
def node : Nat → Nat → Bool → Bool → Reader Nat
  | 0, _, _, _ => malformed
  | fuel + 1, depth, block, loose => do
    if maxNesting < depth then throw .nesting
    match ← peek with
    | some (.alias a) =>
      next
      match (← get).anchors.lookup a with
      | some id => pure id
      | none => malformed
    | _ =>
      let (anchor, tag) ← properties
      checkName anchor
      let sequence (items : Reader (List Nat)) : Reader Nat := do
        let id ← keep anchor ⟨collectionTag tag "seq", .sequence []⟩
        hold id (.sequence (← items))
        pure id
      let mapping (entries : Reader (List (Nat × Nat))) : Reader Nat := do
        let id ← keep anchor ⟨collectionTag tag "map", .mapping []⟩
        hold id (.mapping (← entries))
        pure id
      match ← peek with
      | some .blockEntry =>
        if loose then sequence (looseItems fuel (depth + 1)) else bare anchor tag
      | some (.scalar plain text) =>
        next
        keep anchor ⟨scalarTag tag plain text, .scalar text⟩
      | some .flowSequenceStart =>
        next
        sequence (flowItems fuel (depth + 1) true)
      | some .flowMappingStart =>
        next
        mapping (flowEntries fuel (depth + 1) true)
      | some .blockSequenceStart =>
        if block then do
          next
          sequence (blockItems fuel (depth + 1))
        else bare anchor tag
      | some .blockMappingStart =>
        if block then do
          next
          mapping (blockEntries fuel (depth + 1))
        else bare anchor tag
      | _ => bare anchor tag

/-- Reads the items of a block sequence. -/
def blockItems : Nat → Nat → Reader (List Nat)
  | 0, _ => malformed
  | fuel + 1, depth => do
    match ← peek with
    | some .blockEntry =>
      next
      let item ← if ← at? [.blockEntry, .blockEnd] then emptyNode else node fuel depth true false
      pure (item :: (← blockItems fuel depth))
    | some .blockEnd =>
      next
      pure []
    | _ => malformed

/-- Reads the items of a sequence that has no block of its own. -/
def looseItems : Nat → Nat → Reader (List Nat)
  | 0, _ => malformed
  | fuel + 1, depth => do
    match ← peek with
    | some .blockEntry =>
      next
      let item ←
        if ← at? [.blockEntry, .key, .value, .blockEnd] then emptyNode
        else node fuel depth true false
      pure (item :: (← looseItems fuel depth))
    | _ => pure []

/-- Reads the entries of a block mapping. -/
def blockEntries : Nat → Nat → Reader (List (Nat × Nat))
  | 0, _ => malformed
  | fuel + 1, depth => do
    match ← peek with
    | some .blockEnd =>
      next
      pure []
    | some .key =>
      next
      let key ← if ← at? [.key, .value, .blockEnd] then emptyNode else node fuel depth true true
      let value ← blockValue fuel depth
      pure ((key, value) :: (← blockEntries fuel depth))
    | _ => malformed

/-- Reads the value of an entry in a block mapping. -/
def blockValue : Nat → Nat → Reader Nat
  | 0, _ => malformed
  | fuel + 1, depth => do
    if ← at? [.value] then
      next
      if ← at? [.key, .value, .blockEnd] then emptyNode else node fuel depth true true
    else emptyNode

/-- Reads the items of a flow sequence; an entry with a key is a mapping of its own. -/
def flowItems : Nat → Nat → Bool → Reader (List Nat)
  | 0, _, _ => malformed
  | fuel + 1, depth, first => do
    if ← at? [.flowSequenceEnd] then
      next
      pure []
    else
      if !first then
        if ← at? [.flowEntry] then next else malformed
      match ← peek with
      | some .key =>
        next
        if maxNesting < depth then throw .nesting
        let id ← add ⟨coreTag "map", .mapping []⟩
        let key ←
          if ← at? [.value, .flowEntry, .flowSequenceEnd] then emptyNode
          else node fuel (depth + 1) false false
        let value ← flowValue fuel (depth + 1)
        hold id (.mapping [(key, value)])
        pure (id :: (← flowItems fuel depth false))
      | some .flowSequenceEnd =>
        next
        pure []
      | _ =>
        let item ← node fuel depth false false
        pure (item :: (← flowItems fuel depth false))

/-- Reads the value of an entry in a flow collection. -/
def flowValue : Nat → Nat → Reader Nat
  | 0, _ => malformed
  | fuel + 1, depth => do
    if ← at? [.value] then
      next
      if ← at? [.flowEntry, .flowSequenceEnd, .flowMappingEnd] then emptyNode
      else node fuel depth false false
    else emptyNode

/-- Reads the entries of a flow mapping. -/
def flowEntries : Nat → Nat → Bool → Reader (List (Nat × Nat))
  | 0, _, _ => malformed
  | fuel + 1, depth, first => do
    if ← at? [.flowMappingEnd] then
      next
      pure []
    else
      if !first then
        if ← at? [.flowEntry] then next else malformed
      match ← peek with
      | some .key =>
        next
        let key ←
          if ← at? [.value, .flowEntry, .flowMappingEnd] then emptyNode
          else node fuel depth false false
        let value ← flowValue fuel depth
        pure ((key, value) :: (← flowEntries fuel depth false))
      | some .flowMappingEnd =>
        next
        pure []
      | _ =>
        let key ← node fuel depth false false
        let value ← emptyNode
        pure ((key, value) :: (← flowEntries fuel depth false))

end

/-- Reads directives: at most one version, which has to be the first, and short forms. -/
def directives : Nat → Bool → Reader Unit
  | 0, _ => malformed
  | fuel + 1, versioned => do
    match ← peek with
    | some (.version major) =>
      if versioned || major ≠ 1 then malformed
      else
        next
        directives fuel true
    | some (.shorthand handle beginning) =>
      if ((← get).shorthands.lookup handle).isSome then malformed
      else
        next
        modify fun r => { r with shorthands := (handle, beginning) :: r.shorthands }
        directives fuel versioned
    | some .directive =>
      next
      directives fuel versioned
    | _ => pure ()

/-- The short forms that every document knows. -/
def usualShorthands : List (String × String) := [("!", "!"), ("!!", coreBeginning)]

/-- Passes the marks of a document's end. -/
def documentEnds : Nat → Reader Unit
  | 0 => pure ()
  | fuel + 1 => do
    if ← at? [.documentEnd] then
      next
      documentEnds fuel
    else pure ()

/-- Whether the next token belongs before a document. -/
def atPreamble : Reader Bool := do
  match ← peek with
  | some (.version _) => pure true
  | some (.shorthand _ _) => pure true
  | some .directive => pure true
  | some .documentStart => pure true
  | _ => pure false

/-- Reads a document behind its preamble, none when there is no further document. -/
def explicitDocument (fuel : Nat) : Reader (Option Nat) := do
  documentEnds fuel
  if (← peek).isNone then pure none
  else
    modify fun r => { r with shorthands := [] }
    directives fuel false
    modify fun r => { r with shorthands := r.shorthands ++ usualShorthands }
    if ← at? [.documentStart] then
      next
      if (← atPreamble) || (← atEndOr [.documentEnd]) then do pure (some (← emptyNode))
      else do pure (some (← node fuel 0 true false))
    else malformed

/-- Reads the only document, none when there is none. -/
def document (fuel : Nat) : Reader (Option Nat) := do
  let explicit := (← atPreamble) || (← peek).isNone
  let root ← if explicit then explicitDocument fuel else do pure (some (← node fuel 0 true false))
  if root.isNone then pure none
  else
    if ← at? [.documentEnd] then next
    documentEnds fuel
    if (← peek).isNone then pure root else malformed

end Reader

/-- The nodes of the only document in some tokens and the number of its root, none when there is no
document. -/
def rootOf (ts : List Token) : Except Fault (Graph × Option Nat) :=
  ((Reader.document (4 * ts.length + 8)).run ⟨ts, #[], [], Reader.usualShorthands⟩).map fun r =>
    (r.2.nodes, r.1)

end RestContract.Yaml

import RestContract.Yaml.Flatten
import RestContract.Text.Base64

/-!
# Values of YAML documents

Nodes become values of their types. Scalars have their values at once; a collection is
begun empty and filled later, in the order in which collections were begun, so the faults
of a document are found from the outside to the inside. A collection that stands inside
itself has a label there.
-/

namespace RestContract.Yaml

/-- What a node has become; collections name their parts by the numbers of their nodes. -/
inductive Built where
  /-- A value with nothing more to fill in. -/
  | closed (v : Value)
  /-- A list of the values of nodes. -/
  | list (items : List Nat)
  /-- A map to the values of nodes. -/
  | map (entries : List (Value × Nat))
  /-- A list of pairs of the values of nodes. -/
  | pairs (items : List (Nat × Nat))
  /-- A set. -/
  | set (items : List Value)
  deriving Inhabited

/-- How far the values of a document have been made. -/
structure Building where
  /-- The nodes. -/
  graph : Graph
  /-- What the nodes have become, by their numbers. -/
  built : Array (Option Built)
  /-- The collections that have been begun since the last round of filling, the last one first. -/
  begun : List Nat

/-- A step of making values. -/
abbrev Builder (α : Type) := StateT Building (Except Fault) α

namespace Builder

/-- Fails. -/
def malformed : Builder α := throw .malformed

/-- Says what a node has become. -/
def become (id : Nat) (b : Built) : Builder Unit :=
  modify fun s => { s with built := s.built.setIfInBounds id (some b) }

/-- Begins a collection. -/
def start (id : Nat) (empty : Built) : Builder Unit := do
  become id empty
  modify fun s => { s with begun := id :: s.begun }

/-- The text of a scalar; a mapping has the text under its first mark for a default value. -/
def textOf : Nat → Graph → Nat → Except Fault String
  | 0, _, _ => .error .nesting
  | fuel + 1, g, id =>
    match g.content? id with
    | some (.scalar text) => .ok text
    | some (.mapping entries) =>
      match entries.find? fun e => g.tag? e.1 = some .value with
      | some e => textOf fuel g e.2
      | none => .error .malformed
    | _ => .error .malformed

/-- The bytes that a text in base 64 stands for. -/
def bytesOf (text : String) : Except Fault Value :=
  if text.toList.any fun c => 0x7F < c.toNat then .error .malformed
  else match Base64.decode? text.toList with
    | some b => .ok (.bytes b)
    | none => .error .malformed

/-- The value of a scalar of a type. -/
def scalarOf (tag : CoreTag) (g : Graph) (id : Nat) : Except Fault Value := do
  let text ← textOf (g.size + 1) g id
  match tag with
  | .null => .ok .null
  | .bool => readTruth text
  | .int => readWhole text
  | .float => readFloat text
  | .timestamp => if (g.entries? id).isSome then .error .kind else readTime text
  | .str => .ok (.text text)
  | .binary => bytesOf text
  | _ => .error .malformed

/-- Makes the value of a node, unless that has been done. -/
def construct (id : Nat) : Builder Unit := do
  let s ← get
  if ((s.built[id]?).getD none).isSome then pure ()
  else match s.graph.tag? id with
    | none => malformed
    | some .seq => start id (.list [])
    | some .map => start id (.map [])
    | some .set => start id (.set [])
    | some .omap => start id (.pairs [])
    | some .pairs => start id (.pairs [])
    | some tag => do become id (.closed (← StateT.lift (scalarOf tag s.graph id)))

/-- Makes the value of a key, which has to be one. -/
def keyOf (id : Nat) : Builder Value := do
  construct id
  match ((← get).built[id]?).getD none with
  | some (.closed v) => pure v
  | _ => malformed

/-- Makes the keys and the values of a mapping, and stores them in their order. -/
def entriesOf (stored : List (Value × Nat)) : List (Nat × Nat) → Builder (List (Value × Nat))
  | [] => pure stored
  | (key, value) :: rest => do
    let k ← keyOf key
    construct value
    entriesOf (storeKey k value stored) rest

/-- Makes the keys and values of a mapping with what it merges into itself. -/
def mappingOf (id : Nat) : Builder (List (Value × Nat)) := do
  if ((← get).graph.entries? id).isNone then malformed
  else
    let g ← StateT.lift ((← get).graph.flatten id)
    modify fun s => { s with graph := g }
    entriesOf [] ((g.entries? id).getD [])

/-- Makes the key and the value of a mapping with one entry. -/
def pairOf (id : Nat) : Builder (Nat × Nat) := do
  match (← get).graph.entries? id with
  | some [(key, value)] =>
    construct key
    construct value
    pure (key, value)
  | _ => malformed

/-- The items of a sequence. -/
def itemsOf (id : Nat) : Builder (List Nat) := do
  match (← get).graph.items? id with
  | some items => pure items
  | none => malformed

/-- Fills a collection. -/
def fill (id : Nat) : Builder Unit := do
  match ((← get).built[id]?).getD none with
  | some (.list _) =>
    let items ← itemsOf id
    items.forM construct
    become id (.list items)
  | some (.map _) => become id (.map (← mappingOf id))
  | some (.set _) => become id (.set ((← mappingOf id).map (·.1)))
  | some (.pairs _) => become id (.pairs (← (← itemsOf id).mapM pairOf))
  | _ => pure ()

/-- Fills the collections that have been begun, round after round. -/
def fillAll : Nat → Builder Unit
  | 0 => pure ()
  | rounds + 1 => do
    let begun := (← get).begun.reverse
    if begun.isEmpty then pure ()
    else
      modify fun s => { s with begun := [] }
      begun.forM fill
      fillAll rounds

/-- Makes the value of a node with all that it holds. -/
def all (root : Nat) : Builder Unit := do
  construct root
  fillAll ((← get).graph.size + 1)

end Builder

/-! ## From what nodes have become to values -/

/-- A step of joining values, which remembers those in which no label is left open. -/
abbrev Joining (α : Type) := StateM (Array (Option Value)) α

/-- A value and the labels that are left open in it. -/
abbrev Labelled := Value × List Nat

namespace Joining

/-- Puts a label on a collection that stands inside itself. -/
def label (id : Nat) (v : Value) (labels : List Nat) : Labelled :=
  if labels.contains id then (.shared id v, (labels.filter (· ≠ id)).eraseDups)
  else (v, labels.eraseDups)

/-- Whether a node has become a map. -/
def isMap (built : Array (Option Built)) (id : Nat) : Bool :=
  match (built[id]?).getD none with
  | some (.map _) => true
  | _ => false

/-- The value of a node inside some others, which are nested so deeply at most. -/
def value (built : Array (Option Built)) : Nat → List Nat → Nat → Joining Labelled
  | 0, _, _ => pure (.null, [])
  | fuel + 1, outer, id => do
    if outer.contains id then pure (.again id (isMap built id), [id])
    else match ((← get)[id]?).getD none with
      | some v => pure (v, [])
      | none =>
        let part := value built fuel (id :: outer)
        let r ← match (built[id]?).getD none with
          | none => pure (Value.null, [])
          | some (.closed v) => pure (v, [])
          | some (.set items) => pure (.set items, [])
          | some (.list items) => do
            let rs ← items.mapM part
            pure (label id (.list (rs.map (·.1))) (rs.flatMap (·.2)))
          | some (.map entries) => do
            let rs ← entries.mapM fun e => part e.2
            pure (label id (.map ((entries.map (·.1)).zip (rs.map (·.1)))) (rs.flatMap (·.2)))
          | some (.pairs items) => do
            let rs ← items.mapM fun e => do pure (← part e.1, ← part e.2)
            pure
              (label id (.list (rs.map fun r => .pair r.1.1 r.2.1))
                (rs.flatMap fun r => r.1.2 ++ r.2.2))
        if r.2.isEmpty then modify fun known => known.setIfInBounds id (some r.1)
        pure r

end Joining

/-- The value of a node of a document. -/
def Graph.valueOf (g : Graph) (root : Nat) : Except Fault Value := do
  let ((), s) ← (Builder.all root).run ⟨g, Array.replicate g.size none, []⟩
  pure ((Joining.value s.built (g.size + 1) [] root).run (Array.replicate g.size none)).1.1

/-- The value of a text; a text without a document has the absent value. -/
def valueOf (text : String) : Except Fault Value := do
  let cs := unifyLineEnds text.toList
  if !cs.all isAllowed then .error .malformed
  else
    match ← rootOf (tokens cs) with
    | (_, none) => pure .null
    | (g, some root) => g.valueOf root

end RestContract.Yaml

import RestContract.Yaml.Node

/-!
# Mappings merged into others

A mapping may merge others into itself. What they say comes before what it says itself,
and of several merged mappings the last one comes first, so that later entries of a name
count more. Merging changes the nodes: a merged mapping loses its marks for merging as
well, and a mark for a default value becomes a text.
-/

namespace RestContract.Yaml

/-- The type of a node, if every document knows it. -/
def Node.coreTag? (n : Node) : Option CoreTag := CoreTag.ofText? n.tag

namespace Graph

/-- The type of a numbered node, if every document knows it. -/
def tag? (g : Graph) (id : Nat) : Option CoreTag := g[id]?.bind fun (n : Node) => n.coreTag?

/-- What a numbered node holds. -/
def content? (g : Graph) (id : Nat) : Option Content := g[id]?.map fun (n : Node) => n.content

/-- The entries of a mapping, none for any other node. -/
def entries? (g : Graph) (id : Nat) : Option (List (Nat × Nat)) :=
  match g.content? id with
  | some (.mapping entries) => some entries
  | _ => none

/-- The items of a sequence, none for any other node. -/
def items? (g : Graph) (id : Nat) : Option (List Nat) :=
  match g.content? id with
  | some (.sequence items) => some items
  | _ => none

/-- The nodes with other entries of a mapping. -/
def setEntries (id : Nat) (entries : List (Nat × Nat)) (g : Graph) : Graph :=
  g.modify id fun n => { n with content := .mapping entries }

/-- Whether a key asks for merging. -/
def isMerge (g : Graph) (e : Nat × Nat) : Bool := g.tag? e.1 = some .merge

/-- The number of entries of a mapping that ask for merging. -/
def mergeCount (g : Graph) (id : Nat) : Nat := (((g.entries? id).getD []).filter g.isMerge).length

/-- The nodes with texts for the marks of default values among the keys of a mapping. -/
def nameDefaults (id : Nat) (g : Graph) : Graph :=
  ((g.entries? id).getD []).foldl (fun g e =>
    if g.tag? e.1 = some .value then g.modify e.1 fun n => { n with tag := coreTag "str" } else g) g

/-- The first entry of a mapping that asks for merging, and the nodes without that entry. -/
def takeMerge? (id : Nat) (g : Graph) : Option (Nat × Graph) :=
  let entries := (g.entries? id).getD []
  (entries.find? g.isMerge).map fun e =>
    (e.2, g.setEntries id
      (entries.takeWhile (!g.isMerge ·) ++ (entries.dropWhile (!g.isMerge ·)).drop 1))

/-- The entries of several mappings, each behind a change of the nodes,
those of the last one first. -/
def gather (flatten : Nat → Graph → Except Fault Graph) :
    List Nat → Graph → Except Fault (List (Nat × Nat) × Graph)
  | [], g => .ok ([], g)
  | id :: rest, g =>
    if (g.entries? id).isNone then .error .malformed
    else do
      let g ← flatten id g
      let own := (g.entries? id).getD []
      let (others, g) ← gather flatten rest g
      pure (others ++ own, g)

/-- The entries that the value of a mark for merging stands for. -/
def mergedBy (flatten : Nat → Graph → Except Fault Graph) (id : Nat) (g : Graph) :
    Except Fault (List (Nat × Nat) × Graph) :=
  match g.items? id with
  | some items => gather flatten items g
  | none => gather flatten [id] g

/-- The entries that a mapping merges into itself, at most so many times. -/
def mergeAll (flatten : Nat → Graph → Except Fault Graph) (id : Nat) :
    Nat → Graph → Except Fault (List (Nat × Nat) × Graph)
  | 0, g => .ok ([], g)
  | n + 1, g =>
    match g.takeMerge? id with
    | none => .ok ([], g)
    | some (value, g) => do
      let (first, g) ← mergedBy flatten value g
      let (others, g) ← mergeAll flatten id n g
      pure (first ++ others, g)

/-- The nodes where a mapping holds what it merges into itself, merges being nested so deeply at
most. -/
def flattenIn : Nat → Nat → Graph → Except Fault Graph
  | 0, _, _ => .error .malformed
  | depth + 1, id, g => do
    let (merged, g) ← mergeAll (flattenIn depth) id (g.mergeCount id) g
    let g := g.nameDefaults id
    pure (if merged.isEmpty then g else g.setEntries id (merged ++ (g.entries? id).getD []))

/-- The nodes where a mapping holds what it merges into itself; every nested merge uses up a mark
for merging. -/
def flatten (id : Nat) (g : Graph) : Except Fault Graph :=
  let marks := (List.range g.size).foldl (fun n i => n + g.mergeCount i) 0
  flattenIn (marks + 2) id g

end Graph

end RestContract.Yaml

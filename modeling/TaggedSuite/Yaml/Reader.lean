import TaggedSuite.Levels
import TaggedSuite.Yaml.Node
import TaggedSuite.Yaml.Resolution

/-!
# Reading YAML

The node of a text becomes a value in two steps. Repeated nodes are put in place of their names, and
then every node is read by its kind, a mapping with merged ones laid under the entries of its own.
Of several faults the one that stands highest is told, and of those the first one.
-/
namespace TaggedSuite.Yaml
namespace Node

/-! ### Names -/

/-- The nodes that have a name so far. A node that is still being read has none yet. -/
abbrev Names := List (String × Option Node)

/-- Gives a node its name. -/
def declare (p : Properties) (node? : Option Node) : StateT Names Option Unit :=
  match p.anchor? with
  | none => return
  | some name => modify fun names => (name, node?) :: names

/-- Refuses a name that is taken. -/
def refuseTaken (p : Properties) : StateT Names Option Unit :=
  match p.anchor? with
  | none => return
  | some name => do if ((← get).lookup name).isSome then failure

mutual

/-- Puts the nodes in place of their names. -/
def withoutNames : Node → StateT Names Option Node
  | .aliasOf name => do
    match (← get).lookup name with
    | some (some node) => return node
    | _ => failure
  | .scalar p text isPlain => do
    refuseTaken p
    declare p (some (.scalar p text isPlain))
    return .scalar p text isPlain
  | .sequence p items => do
    refuseTaken p
    declare p none
    let items ← itemsWithoutNames items
    declare p (some (.sequence p items))
    return .sequence p items
  | .mapping p entries => do
    refuseTaken p
    declare p none
    let entries ← entriesWithoutNames entries
    declare p (some (.mapping p entries))
    return .mapping p entries

/-- Puts nodes in place of their names in the items of a sequence. -/
def itemsWithoutNames : List Node → StateT Names Option (List Node)
  | [] => return []
  | node :: rest => do
    let node ← withoutNames node
    return node :: (← itemsWithoutNames rest)

/-- Puts nodes in place of their names in the entries of a mapping. -/
def entriesWithoutNames : List (Node × Node) → StateT Names Option (List (Node × Node))
  | [] => return []
  | (key, value) :: rest => do
    let key ← withoutNames key
    let value ← withoutNames value
    return (key, value) :: (← entriesWithoutNames rest)

end

/-! ### Kinds -/

/-- The kind of a node by its tag, or else its own. -/
def taggedKind (p : Properties) (own : Kind) : Kind :=
  match p.tag? with
  | none | some "!" => own
  | some tag => Kind.ofTag tag

/-- The kind of a node. A plain scalar without a tag has the kind that it is written like. -/
def kind : Node → Kind
  | .scalar p text isPlain => taggedKind p (if isPlain then Kind.ofText text else .str)
  | .sequence p _ => taggedKind p .sequence
  | .mapping p _ => taggedKind p .mapping
  | .aliasOf _ => .unknown

mutual

/-- The text of a node that is read as a scalar. A mapping has that of the entry which stands for
its value as a whole. -/
def text? : Node → Option String
  | .scalar _ text _ => some text
  | .mapping _ entries => valueText? entries
  | _ => none

/-- The text of the first entry that stands for the value of a mapping as a whole. -/
def valueText? : List (Node × Node) → Option String
  | [] => none
  | (key, value) :: rest => if key.kind = .value then text? value else valueText? rest

end

/-! ### Merged mappings -/

/-- The entries of a mapping with merged ones in front, where mappings to merge are at most so deep.
Of several mappings the last one comes first. -/
def flatEntries? : Nat → Node → Option (List (Node × Node))
  | n + 1, .mapping _ entries => do
    let merged ← (entries.filter fun e => e.1.kind = .merge).mapM fun e =>
      match e.2 with
      | .sequence _ items => do return (← items.mapM (flatEntries? n)).reverse.flatten
      | node => flatEntries? n node
    return merged.flatten ++ entries.filter fun e => e.1.kind ≠ .merge
  | _, _ => none

/-! ### Values -/

/-- The value of a node, and the faults in it by the depth at which they stand. -/
structure Built where
  value : Value
  faults : List (List Fault)

namespace Built

/-- A value without a fault. -/
def ofScalar (s : Scalar) : Built := ⟨.scalar s, []⟩

/-- A fault of the node itself. -/
def fault (f : Fault) : Built := ⟨.null, [[f]]⟩

/-- A fault that is noticed when the parts of the node are looked at. -/
def faultBelow (f : Fault) : Built := ⟨.null, [[], [f]]⟩

/-- A value that is put together from parts. -/
def ofParts (value : Value) (parts : List Built) : Built :=
  ⟨value, [] :: joinAllLevels (parts.map (·.faults))⟩

def scalar? (b : Built) : Option Scalar :=
  match b.value with
  | .scalar s => some s
  | _ => none

/-- A key. Only a scalar can be one. -/
def asKey (b : Built) : Built :=
  if b.scalar?.isSome then b else ⟨.null, joinLevels b.faults [[.malformed]]⟩

/-- The first fault, or else the value. A fault higher up goes before those below it. -/
def result (b : Built) : Except Fault Value :=
  match b.faults.flatten with
  | [] => .ok b.value
  | f :: _ => .error f

end Built

/-- The value of a node that is read as a scalar of a kind. -/
def buildScalar (kind : Kind) (node : Node) : Built :=
  match node.text? with
  | none => .fault .malformed
  | some text =>
    match kind, node with
    | .timestamp, .mapping .. => .fault (.conversion .timeOfMapping)
    | kind, _ =>
      match scalarOf kind text with
      | .ok s => .ofScalar s
      | .error f => .fault f

/-- The value of a key, given how other nodes are read. The key that stands for the value of a
mapping as a whole is a text here. -/
def buildKey (build : Node → Built) (node : Node) : Built :=
  (if node.kind = .value then buildScalar .str node else build node).asKey

/-- The keys and values of entries, given how nodes are read. -/
def buildEntries (build : Node → Built) (entries : List (Node × Node)) : List (Built × Built) :=
  entries.map fun e => (buildKey build e.1, build e.2)

/-- The parts of entries in order. -/
def partsOf (entries : List (Built × Built)) : List Built := entries.flatMap fun e => [e.1, e.2]

def pairsOf (entries : List (Built × Built)) : Entries :=
  Entries.ofList (entries.filterMap fun e => e.1.scalar?.map fun k => (k, e.2.value))

/-- The items of a sequence of single entries, given how nodes are read. Nothing is read after an
item that is no mapping with one entry. -/
def buildPairs (build : Node → Built) : List Node → List (Built × Built)
  | [] => []
  | .mapping _ [(key, value)] :: rest => (build key, build value) :: buildPairs build rest
  | _ :: _ => [(.fault .malformed, .ofScalar .null)]

/-- The value of a node without names whose parts are at most so deep. -/
def build : Nat → Node → Built
  | 0, _ => .fault .malformed
  | n + 1, node =>
    match node.kind, node with
    | .sequence, .sequence _ items =>
      let parts := items.map (build n)
      .ofParts (.list (parts.map (·.value))) parts
    | .pairs, .sequence _ items =>
      let entries := buildPairs (build n) items
      .ofParts (.list (entries.map fun e => .tuple [e.1.value, e.2.value])) (partsOf entries)
    | .mapping, node =>
      match flatEntries? (n + 1) node with
      | none => .faultBelow .malformed
      | some entries =>
        let entries := buildEntries (build n) entries
        .ofParts (.map (pairsOf entries)) (partsOf entries)
    | .set, node =>
      match flatEntries? (n + 1) node with
      | none => .faultBelow .malformed
      | some entries =>
        let entries := buildEntries (build n) entries
        .ofParts (.set (Members.ofList (pairsOf entries).keys)) (partsOf entries)
    | .sequence, _ | .pairs, _ => .faultBelow .malformed
    | kind, node => buildScalar kind node

mutual

/-- How deep nodes stand inside of each other. -/
def depth : Node → Nat
  | .sequence _ items => itemsDepth items + 1
  | .mapping _ entries => entriesDepth entries + 1
  | _ => 1

/-- How deep the items of a sequence are. -/
def itemsDepth : List Node → Nat
  | [] => 0
  | node :: rest => max (depth node) (itemsDepth rest)

/-- How deep the entries of a mapping are. -/
def entriesDepth : List (Node × Node) → Nat
  | [] => 0
  | (key, value) :: rest => max (max (depth key) (depth value)) (entriesDepth rest)

end

def value (node : Node) : Except Fault Value := (build node.depth node).result

end Node

/-- Reads a text. A text without a document is null. -/
def read (s : String) : Except Fault Value := do
  match ← Node.read s.toList with
  | none => return .null
  | some node => do
    let (node, _) ← orMalformed (node.withoutNames [])
    node.value

end TaggedSuite.Yaml

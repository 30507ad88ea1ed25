import TaggedSuite.Yaml.Lexer

/-!
# Nodes of a YAML text

The tokens of a text make up one node: a scalar, a sequence or a mapping. A node can have a tag, and
a name under which it can be repeated further down.
-/
namespace TaggedSuite.Yaml

/-- What can stand in front of the content of a node. -/
structure Properties where
  anchor? : Option String
  tag? : Option String
  deriving DecidableEq, Repr

def Properties.none : Properties := ⟨.none, .none⟩

def Properties.isNone (p : Properties) : Bool := p.anchor?.isNone && p.tag?.isNone

inductive Node where
  | scalar (p : Properties) (text : String) (isPlain : Bool)
  | sequence (p : Properties) (items : List Node)
  | mapping (p : Properties) (entries : List (Node × Node))
  /-- The node with the name, once more. -/
  | aliasOf (name : String)
  deriving Repr, Inhabited

def Node.absent (p : Properties) : Node := .scalar p "" true

/-- What the handles of tags are short for. -/
abbrev Handles := List (String × String)

/-- The handles that need no directive. -/
def defaultHandles : Handles := [("!", "!"), ("!!", "tag:yaml.org,2002:")]

/-- A tag in full; none if its handle is not known. -/
def Handles.expand? (h : Handles) (handle? : Option String) (suffix : String) : Option String :=
  match handle? with
  | none => some suffix
  | some handle => (h.lookup handle).map (· ++ suffix)

/-- Reads the properties of a node: a name and a tag in any order. -/
def properties (h : Handles) : List Token → Option (Properties × List Token)
  | .anchor a :: .tag handle? suffix :: rest | .tag handle? suffix :: .anchor a :: rest => do
    return (⟨some a, some (← h.expand? handle? suffix)⟩, rest)
  | .anchor a :: rest => some (⟨some a, none⟩, rest)
  | .tag handle? suffix :: rest => do return (⟨none, some (← h.expand? handle? suffix)⟩, rest)
  | rest => some (.none, rest)

/-- Whether a node is left out before the token. -/
def endsBlockNode : List Token → Bool
  | .key :: _ | .value :: _ | .blockEnd :: _ => true
  | _ => false

/-- Whether a node of a sequence without a block of its own is left out before the token. -/
def endsIndentless : List Token → Bool
  | .blockEntry :: _ => true
  | ts => endsBlockNode ts

/-- Whether a node of a block sequence is left out before the token. -/
def endsBlockItem : List Token → Bool
  | .blockEntry :: _ | .blockEnd :: _ => true
  | _ => false

/-- Whether a node inside of flow brackets is left out before the token. -/
def endsFlowNode (closer : Token) : List Token → Bool
  | t :: _ => t == .flowEntry || t == closer
  | [] => false

/-- Where a node stands: inside of flow brackets, in a block, or in a block where a sequence needs
no indentation. -/
inductive Position where
  | flow
  | block
  | entry
  deriving DecidableEq, Repr

mutual

/-- Reads a node. The number bounds the steps. -/
def node (h : Handles) : Nat → Position → List Token → Option (Node × List Token)
  | 0, _, _ => none
  | _ + 1, _, .aliasOf name :: rest => some (.aliasOf name, rest)
  | n + 1, position, ts => do
    let (p, ts) ← properties h ts
    match ts with
    | .scalar text isPlain :: rest =>
      return (.scalar p text ((isPlain && p.tag?.isNone) || p.tag? == some "!"), rest)
    | .flowSequenceStart :: rest => do
      let (items, rest) ← flowItems h n true rest
      return (.sequence p items, rest)
    | .flowMappingStart :: rest => do
      let (entries, rest) ← flowEntries h n true rest
      return (.mapping p entries, rest)
    | .blockSequenceStart :: rest =>
      if position = .flow then none else do
        let (items, rest) ← blockItems h n rest
        return (.sequence p items, rest)
    | .blockMappingStart :: rest =>
      if position = .flow then none else do
        let (entries, rest) ← blockEntries h n rest
        return (.mapping p entries, rest)
    | .blockEntry :: _ =>
      if position = .entry then do
        let (items, rest) ← indentlessItems h n ts
        return (.sequence p items, rest)
      else if p.isNone then none
      else return (.absent p, ts)
    | _ => if p.isNone then none else return (.absent p, ts)

/-- Reads the items of a block, with the end of the block. -/
def blockItems (h : Handles) : Nat → List Token → Option (List Node × List Token)
  | 0, _ => none
  | n + 1, .blockEntry :: ts => do
    let (item, ts) ← if endsBlockItem ts then some (.absent .none, ts) else node h n .block ts
    let (items, ts) ← blockItems h n ts
    return (item :: items, ts)
  | _ + 1, .blockEnd :: ts => some ([], ts)
  | _ + 1, _ => none

/-- Reads the items of a sequence that has no block of its own. -/
def indentlessItems (h : Handles) : Nat → List Token → Option (List Node × List Token)
  | 0, _ => none
  | n + 1, .blockEntry :: ts => do
    let (item, ts) ← if endsIndentless ts then some (.absent .none, ts) else node h n .block ts
    let (items, ts) ← indentlessItems h n ts
    return (item :: items, ts)
  | _ + 1, ts => some ([], ts)

/-- Reads the entries of a block, with the end of the block. -/
def blockEntries (h : Handles) : Nat → List Token → Option (List (Node × Node) × List Token)
  | 0, _ => none
  | n + 1, .key :: ts => do
    let (key, ts) ← if endsBlockNode ts then some (.absent .none, ts) else node h n .entry ts
    let (value, ts) ← match ts with
      | .value :: ts => if endsBlockNode ts then some (.absent .none, ts) else node h n .entry ts
      | ts => some (.absent .none, ts)
    let (entries, ts) ← blockEntries h n ts
    return ((key, value) :: entries, ts)
  | _ + 1, .blockEnd :: ts => some ([], ts)
  | _ + 1, _ => none

/-- Reads the key behind its mark and the value of a flow entry. -/
def flowPair (h : Handles) (closer : Token) : Nat → List Token → Option ((Node × Node) × List Token)
  | 0, _ => none
  | n + 1, ts => do
    let (key, ts) ←
      if endsFlowNode closer ts || ts.head? == some .value then some (.absent .none, ts)
      else node h n .flow ts
    let (value, ts) ← match ts with
      | .value :: ts =>
        if endsFlowNode closer ts then some (.absent .none, ts) else node h n .flow ts
      | ts => some (.absent .none, ts)
    return ((key, value), ts)

/-- Reads the items between flow brackets, with the closing one. An entry of a mapping can stand for
the mapping. -/
def flowItems (h : Handles) : Nat → Bool → List Token → Option (List Node × List Token)
  | 0, _, _ => none
  | _ + 1, _, .flowSequenceEnd :: ts => some ([], ts)
  | n + 1, isFirst, ts => do
    let ts ← if isFirst then some ts else match ts with
      | .flowEntry :: ts => some ts
      | _ => none
    match ts with
    | .flowSequenceEnd :: ts => return ([], ts)
    | .key :: ts => do
      let (entry, ts) ← flowPair h .flowSequenceEnd n ts
      let (items, ts) ← flowItems h n false ts
      return (.mapping .none [entry] :: items, ts)
    | ts => do
      let (item, ts) ← node h n .flow ts
      let (items, ts) ← flowItems h n false ts
      return (item :: items, ts)

/-- Reads the entries between flow braces, with the closing one. A key without a value has the
absent one. -/
def flowEntries (h : Handles) : Nat → Bool → List Token → Option (List (Node × Node) × List Token)
  | 0, _, _ => none
  | _ + 1, _, .flowMappingEnd :: ts => some ([], ts)
  | n + 1, isFirst, ts => do
    let ts ← if isFirst then some ts else match ts with
      | .flowEntry :: ts => some ts
      | _ => none
    match ts with
    | .flowMappingEnd :: ts => return ([], ts)
    | .key :: ts => do
      let (entry, ts) ← flowPair h .flowMappingEnd n ts
      let (entries, ts) ← flowEntries h n false ts
      return (entry :: entries, ts)
    | ts => do
      let (key, ts) ← node h n .flow ts
      let (entries, ts) ← flowEntries h n false ts
      return ((key, .absent .none) :: entries, ts)

end

/-- The handles that directives define. Neither a handle nor the version may come twice, and the
first number of the version has to be one. -/
def directives : Bool → Handles → List Token → Option (Handles × List Token)
  | hasVersion, h, .version major :: ts =>
    if hasVersion ∨ major ≠ 1 then none else directives true h ts
  | hasVersion, h, .tagHandle handle shorthand :: ts =>
    if (h.lookup handle).isSome then none else directives hasVersion ((handle, shorthand) :: h) ts
  | hasVersion, h, .otherDirective :: ts => directives hasVersion h ts
  | _, h, ts => some (h ++ defaultHandles, ts)

/-- Whether the content of a document is left out before the token. -/
def endsDocument : List Token → Bool
  | [] | .documentStart :: _ | .documentEnd :: _ => true
  | t :: _ => t.isDirective

/-- Whether a document begins with a mark of its own. -/
def isMarked : List Token → Bool
  | [] => false
  | t :: _ => t == .documentStart || t.isDirective

/-- Reads a document: its node, and what follows it. -/
def document (ts : List Token) : Option (Node × List Token) := do
  let n := 8 * ts.length + 8
  if isMarked ts then
    let (h, ts) ← directives false [] ts
    match ts with
    | .documentStart :: ts =>
      if endsDocument ts then return (.absent .none, ts) else node h n .block ts
    | _ => none
  else node defaultHandles n .block ts

/-- The node of a text with at most one document; nothing if there is no document. -/
def Node.read (cs : List Char) : Except Fault (Option Node) := do
  let ts ← lex cs
  if ts.isEmpty then return none
  let (node, ts) ← orMalformed (document ts)
  if ts.all (· == .documentEnd) then return some node else throw .malformed

end TaggedSuite.Yaml

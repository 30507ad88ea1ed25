import TaggedSuite.Schema.Basic

/-!
# Schemas as documents

A schema is written as a mapping from keywords to what they ask for. A document is refused if a
keyword comes with something that it cannot take, be it a keyword that has a rule or not. Regular
expressions and references to other schemas are not described here: a document with one of them is
refused as well, for a reason of its own.
-/
namespace TaggedSuite.Schema

/-- What a keyword can take. -/
inductive Shape where
  | text
  | truth
  | number
  | positive
  | count
  | texts
  | typeNames
  | values
  | schema
  | schemas
  | schemaOrSchemas
  | schemaEntries
  | dependencies
  | anything
  deriving DecidableEq, Repr

/-- The keywords with what they can take. -/
def shapes : List (String × Shape) :=
  [("$id", .text), ("$schema", .text), ("$ref", .text), ("$comment", .text), ("title", .text),
    ("description", .text), ("default", .anything), ("readOnly", .truth), ("examples", .values),
    ("multipleOf", .positive), ("maximum", .number), ("exclusiveMaximum", .number),
    ("minimum", .number), ("exclusiveMinimum", .number), ("maxLength", .count),
    ("minLength", .count), ("pattern", .text), ("additionalItems", .schema),
    ("items", .schemaOrSchemas),
    ("maxItems", .count), ("minItems", .count), ("uniqueItems", .truth), ("contains", .schema),
    ("maxProperties", .count), ("minProperties", .count), ("required", .texts),
    ("additionalProperties", .schema), ("definitions", .schemaEntries),
    ("properties", .schemaEntries), ("patternProperties", .schemaEntries),
    ("dependencies", .dependencies), ("propertyNames", .schema), ("const", .anything),
    ("enum", .values), ("type", .typeNames), ("format", .text), ("contentMediaType", .text),
    ("contentEncoding", .text), ("if", .schema), ("then", .schema), ("else", .schema),
    ("allOf", .schemas), ("anyOf", .schemas), ("oneOf", .schemas), ("not", .schema)]

def text? : Value → Option String
  | .scalar (.str s) => some s
  | _ => none

/-- The texts of a list without repetition. -/
def texts? : Value → Option (List String)
  | .list items => do
    let ss ← items.mapM text?
    if ss.eraseDups.length = ss.length then return ss else none
  | _ => none

/-- The kinds that a value names: one, or several in a list without repetition. -/
def typeNames? (v : Value) : Option (List ValueType) := do
  match v with
  | .scalar (.str s) => return [← ValueType.ofName? s]
  | v =>
    let names ← texts? v
    if names.isEmpty then none else names.mapM ValueType.ofName?

/-- Whether a value without schemas in it has the shape. -/
def hasShape : Shape → Value → Bool
  | .text, .scalar (.str _) | .truth, .scalar (.bool _) | .values, .list _ | .anything, _ => true
  | .number, v => ValueType.number.matches' v
  | .positive, .scalar s =>
    ValueType.number.matches' (.scalar s) && !Bound.exclusiveMinimum.refuses (.int 0) s
  | .count, .scalar s =>
    ValueType.integer.matches' (.scalar s) && !Bound.minimum.refuses (.int 0) s
  | .texts, v => (texts? v).isSome
  | .typeNames, v => (typeNames? v).isSome
  | _, _ => false

/-- A keyword with its value and the schemas in it, by key where they have one. -/
structure Keyword where
  name : String
  value : Value
  schemas : List (String × Schema)

/-- The first schema of a keyword, or the given one if there is none. -/
def Keyword.schemaD (k : Keyword) (default : Schema) : Schema :=
  (k.schemas.head?.map (·.2)).getD default

def keyword (ks : List Keyword) (name : String) : Option Keyword := ks.find? fun k => k.name == name

/-- The schema of the keyword with a name. What is not written lets everything pass. -/
def schemaOf (ks : List Keyword) (name : String) : Schema :=
  ((keyword ks name).map fun k => k.schemaD (.always true)).getD (.always true)

/-- The limit for numbers that a keyword sets. -/
def boundOf? : String → Option Bound
  | "minimum" => some .minimum
  | "maximum" => some .maximum
  | "exclusiveMinimum" => some .exclusiveMinimum
  | "exclusiveMaximum" => some .exclusiveMaximum
  | _ => none

/-- The limit for the number of parts that a keyword sets. -/
def countLimitOf? (limit : Scalar) : String → Option CountLimit
  | "minLength" => some ⟨.characters, true, limit⟩
  | "maxLength" => some ⟨.characters, false, limit⟩
  | "minItems" => some ⟨.items, true, limit⟩
  | "maxItems" => some ⟨.items, false, limit⟩
  | "minProperties" => some ⟨.entries, true, limit⟩
  | "maxProperties" => some ⟨.entries, false, limit⟩
  | _ => none

/-- The rule of a keyword that sets a limit. -/
def limitRule? (name : String) (limit : Scalar) : Option Rule :=
  ((boundOf? name).map fun b => Rule.bound b limit).or ((countLimitOf? limit name).map Rule.count)

/-- The number of items that have schemas for their places. -/
def itemCount? (ks : List Keyword) : Option Nat := do
  match (← keyword ks "items").value with
  | .list items => return items.length
  | _ => none

/-- The rule of a keyword beside others, if it has one. -/
def Keyword.rule? (ks : List Keyword) (k : Keyword) : Option Rule :=
  let schemas := k.schemas.map (·.2)
  let schema := k.schemaD (.always true)
  match k.name, k.value with
  | "type", v => (typeNames? v).map .type
  | "multipleOf", .scalar step => some (.multipleOf step)
  | "required", v => (texts? v).map .required
  | "properties", _ => some (.properties k.schemas)
  | "additionalProperties", _ =>
    let known := ((keyword ks "properties").map fun p => p.schemas.map (·.1)).getD []
    some (.otherProperties known schema)
  | "propertyNames", _ => some (.propertyNames schema)
  | "dependencies", _ => some (.dependencies k.schemas)
  | "items", .list _ => some (.itemsInOrder schemas)
  | "items", _ => some (.items schema)
  | "additionalItems", _ =>
    (itemCount? ks).map fun n => .otherItems n schema
  | "uniqueItems", v => if v.truthy then some .unique else none
  | "contains", _ => some (.contains schema)
  | "const", v => some (.constant v)
  | "enum", .list vs => some (.oneOfValues vs)
  | "allOf", _ => some (.allOf schemas)
  | "anyOf", _ => some (.anyOf schemas)
  | "oneOf", .list documents => some (.oneOf schemas documents)
  | "not", v => some (.not schema v)
  | "if", _ => some (.conditional schema (schemaOf ks "then") (schemaOf ks "else"))
  | name, .scalar limit => limitRule? name limit
  | _, _ => none

def rulesOf (ks : List Keyword) : List Rule := ks.filterMap (Keyword.rule? ks)

/-- Why a document is no schema. -/
inductive DocumentFault where
  | invalid
  /-- A keyword asks for something that is not described here. -/
  | beyond (keyword : String)
  deriving DecidableEq, Repr

/-- The keywords that are not described: regular expressions and references to other schemas. -/
def beyondKeywords : List String := ["$ref", "pattern", "patternProperties"]

def nameOf : Scalar → Except DocumentFault String
  | .str s => .ok s
  | _ => .error .invalid

def keywordName (key : Scalar) : Except DocumentFault String := do
  let name ← nameOf key
  if beyondKeywords.contains name then throw (.beyond name) else return name

mutual

def ofValue : Value → Except DocumentFault Schema
  | .scalar (.bool b) => .ok (.always b)
  | .map entries => do return .rules (rulesOf (← keywords entries))
  | _ => .error .invalid

def keywords : List (Scalar × Value) → Except DocumentFault (List Keyword)
  | [] => .ok []
  | (key, v) :: rest => do
    let k ← keywordOf key v
    return k :: (← keywords rest)

/-- A keyword of a document. One that is not known can have any value. -/
def keywordOf (key : Scalar) (v : Value) : Except DocumentFault Keyword := do
  let name ← keywordName key
  match shapes.lookup name, v with
  | none, v => return ⟨name, v, []⟩
  | some .schema, v => return ⟨name, v, [("", ← ofValue v)]⟩
  | some .schemas, .list items | some .schemaOrSchemas, .list items =>
    if items.isEmpty then throw .invalid
    else return ⟨name, .list items, (← schemas items).map fun s => ("", s)⟩
  | some .schemaOrSchemas, v => return ⟨name, v, [("", ← ofValue v)]⟩
  | some .schemaEntries, .map entries => return ⟨name, .map entries, ← schemaEntries entries⟩
  | some .dependencies, .map entries => return ⟨name, .map entries, ← dependencies entries⟩
  | some shape, v => if hasShape shape v then return ⟨name, v, []⟩ else throw .invalid

def schemas : List Value → Except DocumentFault (List Schema)
  | [] => .ok []
  | v :: rest => do
    let s ← ofValue v
    return s :: (← schemas rest)

/-- The schemas under keys. -/
def schemaEntries : List (Scalar × Value) → Except DocumentFault (List (String × Schema))
  | [] => .ok []
  | (key, v) :: rest => do
    let name ← nameOf key
    let s ← ofValue v
    return (name, s) :: (← schemaEntries rest)

/-- What the presence of properties asks for, as schemas: other properties, or a schema itself. -/
def dependencies : List (Scalar × Value) → Except DocumentFault (List (String × Schema))
  | [] => .ok []
  | (key, .list names) :: rest => do
    let name ← nameOf key
    match texts? (.list names) with
    | some keys => return (name, .rules [.companions name keys]) :: (← dependencies rest)
    | none => throw .invalid
  | (key, v) :: rest => do
    let name ← nameOf key
    let s ← ofValue v
    return (name, s) :: (← dependencies rest)

end

end TaggedSuite.Schema

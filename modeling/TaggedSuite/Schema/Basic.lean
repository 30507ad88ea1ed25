import TaggedSuite.Schema.Limit
import TaggedSuite.Value.Equality

/-!
# Schemas

A schema says which values are valid. It is a list of rules, each of which speaks of values of some
kind and lets all others pass, or it lets everything or nothing pass.
-/
namespace TaggedSuite

/-- The kinds of values that a schema tells apart. -/
inductive ValueType where
  | null
  | boolean
  | integer
  | number
  | string
  | array
  | object
  deriving DecidableEq, Repr

namespace ValueType

/-- The name of a kind in schemas and messages. -/
def name : ValueType → String
  | null => "null"
  | boolean => "boolean"
  | integer => "integer"
  | number => "number"
  | string => "string"
  | array => "array"
  | object => "object"

def all : List ValueType := [null, boolean, integer, number, string, array, object]

def ofName? (s : String) : Option ValueType := all.find? fun t => t.name == s

/-- Whether a value is of the kind. A truth value is no number, and a number without a fraction is
an integer. -/
def matches' (t : ValueType) (v : Value) : Bool :=
  match t, v with
  | null, .scalar .null => true
  | boolean, .scalar (.bool _) => true
  | integer, .scalar (.int _) | number, .scalar (.int _) | number, .scalar (.num _) => true
  | integer, .scalar (.num x) => x.toInt?.isSome
  | string, .scalar (.str _) => true
  | array, .list _ => true
  | object, .map _ => true
  | _, _ => false

end ValueType

mutual

inductive Schema where
  | always (valid : Bool)
  | rules (rs : List Rule)

/-- A rule of a schema. Documents are schemas as they are written. -/
inductive Rule where
  | type (ts : List ValueType)
  | bound (b : Bound) (limit : Scalar)
  | multipleOf (step : Scalar)
  | count (l : CountLimit)
  | required (keys : List String)
  /-- A mapping with the property has the others, too. -/
  | companions (property : String) (keys : List String)
  | properties (schemas : List (String × Schema))
  /-- Every property that is not known matches the schema. -/
  | otherProperties (known : List String) (schema : Schema)
  | propertyNames (schema : Schema)
  /-- A mapping with the property matches the schema. -/
  | dependencies (schemas : List (String × Schema))
  /-- Every item matches the schema. -/
  | items (schema : Schema)
  /-- Each item matches the schema at its place. -/
  | itemsInOrder (schemas : List Schema)
  /-- Every item behind so many others matches the schema. -/
  | otherItems (known : Nat) (schema : Schema)
  | unique
  /-- One item matches the schema. -/
  | contains (schema : Schema)
  | constant (v : Value)
  | oneOfValues (vs : List Value)
  | allOf (schemas : List Schema)
  | anyOf (schemas : List Schema)
  /-- The value matches one of the schemas and no other. -/
  | oneOf (schemas : List Schema) (documents : List Value)
  | not (schema : Schema) (document : Value)
  /-- A value that matches the first schema matches the second one, and any other the third one. -/
  | conditional (condition consequent alternative : Schema)

end

/-- Something that makes a value invalid, and the keys and indices that lead to it. A violation that
cannot be told of is a fault. -/
structure Violation where
  path : List Scalar
  text : Except CheckFault String

namespace Violation

/-- A violation by the value itself, unless the message cannot be written. -/
def here (text? : Option String) : Violation := ⟨[], text?.elim (.error .unwritable) .ok⟩

def fault (f : CheckFault) : Violation := ⟨[], .error f⟩

/-- A violation below a key or index. -/
def under (step : Scalar) (v : Violation) : Violation := ⟨step :: v.path, v.text⟩

/-- The steps that lead to a violation, as texts. -/
def steps (v : Violation) : Except CheckFault (List String) :=
  (v.path.mapM Scalar.plain?).elim (.error .unwritable) .ok

/-- The fault that a violation is. -/
def fault? (v : Violation) : Option CheckFault :=
  match v.text with
  | .ok _ => none
  | .error f => some f

end Violation

namespace Schema

/-- What the schemas of several values report, each below its index. -/
def indexed (found : List (List Violation)) : List Violation :=
  ((List.range found.length).zip found).flatMap fun e => e.2.map (.under (.int e.1))

/-- Whether a value is valid, from what a schema reports of it. This is settled by the first
violation. -/
def verdict : List Violation → Except CheckFault Bool
  | [] => .ok true
  | x :: _ => x.text.map fun _ => false

/-- Whether one of several values is valid. Those behind it are not looked at. -/
def anyValid : List (List Violation) → Except CheckFault Bool
  | [] => .ok false
  | vs :: rest => do if ← verdict vs then return true else anyValid rest

/-- How many of several schemas report something before one does not, if there is such a one. All
that the former ones report is looked at. -/
def refusals? : List (List Violation) → Except CheckFault (Option Nat)
  | [] => .ok none
  | [] :: _ => .ok (some 0)
  | vs :: rest =>
    match vs.findSome? Violation.fault? with
    | some f => .error f
    | none => do return (← refusals? rest).map (· + 1)

/-- The documents whose schemas report nothing. -/
def accepting : List (Value × List Violation) → Except CheckFault (List Value)
  | [] => .ok []
  | (document, vs) :: rest => do
    let isValid ← verdict vs
    let others ← accepting rest
    return if isValid then document :: others else others

/-- What is wrong with a value that none of several schemas accepts. -/
def noneAccepts (v : Value) : Violation :=
  .here do return s!"{← v.shown?} is not valid under any of the given schemas"

/-- What is wrong when a value has to match one of several schemas. -/
def anyOfViolations (v : Value) (found : List (List Violation)) : List Violation :=
  match refusals? found with
  | .error f => [.fault f]
  | .ok none => [noneAccepts v]
  | .ok (some _) => []

/-- What is wrong when a value has to match exactly one of several schemas. The first one that it
matches is named last. -/
def oneOfViolations (v : Value) (documents : List Value) (found : List (List Violation)) :
    List Violation :=
  match refusals? found with
  | .error f => [.fault f]
  | .ok none => [noneAccepts v]
  | .ok (some n) =>
    match accepting ((documents.zip found).drop (n + 1)) with
    | .error f => [.fault f]
    | .ok [] => []
    | .ok more =>
      [.here do
        let schemas := ", ".intercalate (← (more ++ documents[n]?.toList).mapM Value.shown?)
        return s!"{← v.shown?} is valid under each of {schemas}"]

/-- What is wrong with parts that nothing is known of. -/
def unexpected (what : String) (parts : List Value) : List Violation :=
  if parts.isEmpty then []
  else
    [.here do
      let listed := ", ".intercalate (← parts.mapM Value.shown?)
      let verb := if parts.length = 1 then "was" else "were"
      return s!"Additional {what} are not allowed ({listed} {verb} unexpected)"]

/-- Keys in the order of their texts, if they all have one. -/
def sortedKeys (keys : List Scalar) : Option (List Scalar) := do
  let texts ← keys.mapM Scalar.plain?
  return ((texts.zip keys).mergeSort fun a b => decide (a.1 ≤ b.1)).map (·.2)

/-- The entries of a mapping under keys that are not known. -/
def otherEntries (entries : Entries) (known : List String) : Entries :=
  entries.filter fun e => !known.any fun k => e.1.sameKey (.str k)

/-- What is missing of the keys that a mapping has to have. -/
def missing (entries : Entries) (keys : List String) : List String :=
  keys.filter fun k => !Entries.contains entries (.str k)

mutual

/-- What makes a value invalid, in the order of the rules. Behind a fault nothing counts. -/
def violations (v : Value) : Schema → List Violation
  | .always true => []
  | .always false => [.here do return s!"False schema does not allow {← v.shown?}"]
  | .rules rs => rulesViolations v rs

/-- What rules report. -/
def rulesViolations (v : Value) : List Rule → List Violation
  | [] => []
  | r :: rest => ruleViolations v r ++ rulesViolations v rest

/-- What a rule reports. -/
def ruleViolations (v : Value) : Rule → List Violation
  | .type ts =>
    if ts.any (·.matches' v) then []
    else
      let names := ", ".intercalate (ts.map fun t => Text.quoted t.name)
      [.here do return s!"{← v.shown?} is not of type {names}"]
  | .bound b limit =>
    match v with
    | .scalar s => if b.refuses limit s then [.here (b.text? limit s)] else []
    | _ => []
  | .multipleOf step =>
    match v with
    | .scalar s =>
      match Scalar.isMultiple step s with
      | .error f => [.fault f]
      | .ok true => []
      | .ok false => [.here do return s!"{← v.shown?} is not a multiple of {← step.shown?}"]
    | _ => []
  | .count l => if l.refuses v then [.here (l.text? v)] else []
  | .required keys =>
    match v with
    | .map entries =>
      (missing entries keys).map fun k => .here (some s!"{Text.quoted k} is a required property")
    | _ => []
  | .companions property keys =>
    match v with
    | .map entries =>
      (missing entries keys).map fun k =>
        .here (some s!"{Text.quoted k} is a dependency of {Text.quoted property}")
    | _ => []
  | .properties schemas =>
    match v with
    | .map entries => propertiesViolations entries schemas
    | _ => []
  | .otherProperties known schema =>
    match v with
    | .map entries =>
      let others := otherEntries entries known
      match schema with
      | .always false =>
        match sortedKeys (Entries.keys others) with
        | some keys => unexpected "properties" (keys.map .scalar)
        | none => [.fault .unwritable]
      | schema => others.flatMap fun e => (violations e.2 schema).map (.under e.1)
    | _ => []
  | .propertyNames schema =>
    match v with
    | .map entries => entries.flatMap fun e => violations (.scalar e.1) schema
    | _ => []
  | .dependencies schemas =>
    match v with
    | .map entries => dependenciesViolations v entries schemas
    | _ => []
  | .items schema =>
    match v with
    | .list items => indexed (items.map fun item => violations item schema)
    | _ => []
  | .itemsInOrder schemas =>
    match v with
    | .list items => indexed (itemsViolations items schemas)
    | _ => []
  | .otherItems known schema =>
    match v with
    | .list items =>
      match schema with
      | .always false => unexpected "items" (items.drop known)
      | schema =>
        indexed (List.replicate (min known items.length) [] ++
          (items.drop known).map fun item => violations item schema)
    | _ => []
  | .unique =>
    match v with
    | .list items =>
      if areDistinct items then []
      else [.here do return s!"{← v.shown?} has non-unique elements"]
    | _ => []
  | .contains schema =>
    match v with
    | .list items =>
      match anyValid (items.map fun item => violations item schema) with
      | .error f => [.fault f]
      | .ok true => []
      | .ok false => [.here do return s!"None of {← v.shown?} are valid under the given schema"]
    | _ => []
  | .constant w => if v.isEqual w then [] else [.here do return s!"{← w.shown?} was expected"]
  | .oneOfValues ws =>
    if ws.any fun w => w.isEqual v then []
    else [.here do return s!"{← v.shown?} is not one of {← (Value.list ws).shown?}"]
  | .allOf schemas => (eachViolations v schemas).flatten
  | .anyOf schemas => anyOfViolations v (eachViolations v schemas)
  | .oneOf schemas documents => oneOfViolations v documents (eachViolations v schemas)
  | .not schema document =>
    match verdict (violations v schema) with
    | .error f => [.fault f]
    | .ok true =>
      [.here do return s!"{← v.shown?} should not be valid under {← document.shown?}"]
    | .ok false => []
  | .conditional condition consequent alternative =>
    match verdict (violations v condition) with
    | .error f => [.fault f]
    | .ok true => violations v consequent
    | .ok false => violations v alternative

/-- What schemas report for the properties of a mapping. -/
def propertiesViolations (entries : Entries) : List (String × Schema) → List Violation
  | [] => []
  | (key, schema) :: rest =>
    (match Entries.get? entries (.str key) with
      | some v => (violations v schema).map (.under (.str key))
      | none => []) ++ propertiesViolations entries rest

/-- What schemas report for a mapping with the properties that they belong to. -/
def dependenciesViolations (v : Value) (entries : Entries) :
    List (String × Schema) → List Violation
  | [] => []
  | (key, schema) :: rest =>
    (if Entries.contains entries (.str key) then violations v schema else []) ++
      dependenciesViolations v entries rest

/-- What schemas report for the items at their places. -/
def itemsViolations (items : List Value) : List Schema → List (List Violation)
  | [] => []
  | schema :: rest =>
    match items with
    | [] => []
    | item :: more => violations item schema :: itemsViolations more rest

/-- What each of several schemas reports for a value. -/
def eachViolations (v : Value) : List Schema → List (List Violation)
  | [] => []
  | schema :: rest => violations v schema :: eachViolations v rest

end

/-- Whether a path comes before another one or is the same, going by the names step by step. -/
def pathLe : List String → List String → Bool
  | [], _ => true
  | _ :: _, [] => false
  | a :: as, b :: bs => if a = b then pathLe as bs else decide (a < b)

/-- A violation in one line, behind the steps that lead to it. -/
def line (path : List String) (text : String) : String :=
  let place := if path.isEmpty then "<root>" else "/".intercalate path
  s!"{place}: {text}"

/-- What makes a value invalid, one line for each violation, in the order of the paths. All
violations are found before any path is written. -/
def problems (s : Schema) (v : Value) : Except CheckFault (List String) := do
  let found := s.violations v
  let texts ← found.mapM (·.text)
  let paths ← found.mapM Violation.steps
  return ((paths.zip texts).mergeSort fun a b => pathLe a.1 b.1).map fun e => line e.1 e.2

def accepts (s : Schema) (v : Value) : Bool := (s.violations v).isEmpty

end Schema

end TaggedSuite

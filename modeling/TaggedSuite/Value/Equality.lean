import TaggedSuite.Value.Basic

/-!
# Equal values

Two values are equal if they have the same content. A number without a fraction equals the integer,
a list the tuple with equal items, and a mapping every one with equal entries in whatever order. A
truth value equals no number.
-/
namespace TaggedSuite

/-- Whether two scalars are equal. What is no number does not even equal itself. -/
def Scalar.isEqual : Scalar → Scalar → Bool
  | .bool a, .bool b => a == b
  | .bool _, _ | _, .bool _ => false
  | .num x, .num y => x.compare? y == some .eq
  | a, b => a.sameKey b

mutual

def Value.isEqual : Value → Value → Bool
  | .scalar a, .scalar b => a.isEqual b
  | .list xs, .list ys | .list xs, .tuple ys | .tuple xs, .list ys | .tuple xs, .tuple ys =>
    areEqual xs ys
  | .map es, .map fs | .map es, .view fs | .view es, .map fs | .view es, .view fs =>
    es.length == fs.length && haveEntries fs es
  | .set as, .set bs => as.length == bs.length && as.all fun a => bs.any fun b => a.sameKey b
  | _, _ => false

/-- Whether two lists have equal items at the same places. -/
def areEqual : List Value → List Value → Bool
  | [], [] => true
  | v :: vs, w :: ws => v.isEqual w && areEqual vs ws
  | _, _ => false

/-- Whether a mapping has an equal value under each of the keys. -/
def haveEntries (fs : Entries) : List (Scalar × Value) → Bool
  | [] => true
  | (key, v) :: rest => (Entries.get? fs key).any (fun w => v.isEqual w) && haveEntries fs rest

end

/-- Whether no two items are equal. -/
def areDistinct : List Value → Bool
  | [] => true
  | v :: rest => !rest.any (fun w => v.isEqual w) && areDistinct rest

end TaggedSuite

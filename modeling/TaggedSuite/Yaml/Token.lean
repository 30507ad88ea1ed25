/-!
# Tokens of a YAML text
-/
namespace TaggedSuite.Yaml

/-- The tokens. The beginning of a block is a token of its own, and so is its end. -/
inductive Token where
  | version (major : Nat)
  | tagHandle (handle shorthand : String)
  | otherDirective
  | documentStart
  | documentEnd
  | blockSequenceStart
  | blockMappingStart
  | blockEnd
  | flowSequenceStart
  | flowSequenceEnd
  | flowMappingStart
  | flowMappingEnd
  | blockEntry
  | flowEntry
  | key
  | value
  | aliasOf (name : String)
  | anchor (name : String)
  | tag (handle? : Option String) (suffix : String)
  | scalar (text : String) (isPlain : Bool)
  deriving DecidableEq, Repr

def Token.isDirective : Token → Bool
  | version _ | tagHandle .. | otherDirective => true
  | _ => false

end TaggedSuite.Yaml

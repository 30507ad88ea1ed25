import TaggedSuite.Tag.Set
import TaggedSuite.Value.Printer

/-!
# Labels as authors hand them over

A label is a text or a finished tag. Wherever labels are expected, a list of them may stand as well;
what else may stand there depends on the place.
-/
namespace TaggedSuite

/-- Something that stands where labels are expected. -/
inductive Label where
  | tag (t : Tag)
  | list (members : List Label)
  | tuple (members : List Label)
  | value (v : Value)
  deriving Inhabited

namespace Label

/-- The name that messages give to the kind of the label, with the module it is from. -/
def kindName : Label → String
  | tag _ => "Tag"
  | list _ => "list"
  | tuple _ => "tuple"
  | value v => v.kindName

/-- The name of the kind of the label by itself. -/
def bareKindName : Label → String
  | value v => v.bareKindName
  | l => l.kindName

mutual

/-- How messages show a label, if everything in it can be shown. -/
def shown? : Label → Option String
  | .tag t => return "Tag(name=" ++ Text.quoted t.name ++ ")"
  | .list members => return "[" ++ String.intercalate ", " (← shownMembers? members) ++ "]"
  | .tuple [member] => return "(" ++ (← member.shown?) ++ ",)"
  | .tuple members => return "(" ++ String.intercalate ", " (← shownMembers? members) ++ ")"
  | .value v => v.shown?

/-- The members of a list, each as messages show it. -/
def shownMembers? : List Label → Option (List String)
  | [] => some []
  | l :: rest => return (← l.shown?) :: (← shownMembers? rest)

end

/-- A fault that shows a label. -/
def fault (l : Label) (told : String → TagError) : TagError := l.shown?.elim .unwritable told

def toTag : Label → Except TagError Tag
  | tag t => .ok t
  | value (.scalar (.str s)) => Tag.parse s
  | l => .error (l.fault (.notText l.bareKindName))

/-- Whether the label is a text or a tag. -/
def isSingle : Label → Bool
  | tag _ => true
  | value (.scalar (.str _)) => true
  | _ => false

/-- The members of something that has members: the characters of a text, the items of a list or a
set, the keys of a mapping. -/
def members : Label → Except TagError (List Label)
  | list ms | tuple ms => .ok ms
  | value (.scalar (.str s)) => .ok (s.toList.map fun c => value (.str (String.singleton c)))
  | value (.list items) | value (.tuple items) => .ok (items.map value)
  | value (.set ms) => .ok (ms.map fun s => value (.scalar s))
  | value (.map entries) | value (.view entries) => .ok (entries.map fun e => value (.scalar e.1))
  | l => .error (.noMembers l.kindName)

/-- Single labels, or the members of anything else. -/
def spread (l : Label) : Except TagError (List Label) :=
  if l.isSingle then .ok [l] else l.members

/-- Single labels, or the members of a list or a set; a marker takes nothing else. -/
def spreadMarkerArgument (l : Label) : Except TagError (List Label) :=
  match l with
  | list ms | tuple ms => .ok ms
  | value (.list items) | value (.tuple items) => .ok (items.map value)
  | value (.set ms) => .ok (ms.map fun s => value (.scalar s))
  | l => if l.isSingle then .ok [l] else .error (l.fault .unsupported)

end Label

namespace TagSet

/-- The set of the tags of single labels. The first label that is none decides the fault. -/
def ofSingles (labels : List Label) : Except TagError TagSet := do
  return ofList (← labels.mapM Label.toTag)

/-- The set of the tags of the members of a collection of labels. -/
def ofMembers (labels : Label) : Except TagError TagSet := do
  ofSingles (← labels.members)

/-- The set of labels and of lists of labels. -/
def ofLabels (labels : List Label) : Except TagError TagSet := do
  ofSingles (← labels.mapM Label.spread).flatten

/-- The set declared by the arguments of one marker. -/
def ofMarkerArguments (arguments : List Label) : Except TagError TagSet := do
  ofSingles (← arguments.mapM Label.spreadMarkerArgument).flatten

/-- Whether the set has the tag of the label. Something that is no label is in no set. -/
def hasLabel (s : TagSet) (l : Label) : Bool :=
  match l.isSingle, l.toTag with
  | true, .ok t => t ∈ s
  | _, _ => false

end TagSet

end TaggedSuite

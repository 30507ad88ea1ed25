import TaggedSuite.Number.Numeral
import TaggedSuite.Number.Printer
import TaggedSuite.Text.Quoted
import TaggedSuite.Time.Printer
import TaggedSuite.Value.Basic

/-!
# The text of a value in messages

A message shows a value in a notation of its own: texts between quotes, lists between brackets,
tuples between parentheses, mappings and sets between braces. A text, a day or a moment that is not
part of another value can also be shown plainly. Only an integer with too many digits has no text,
and then nothing that holds it has one.
-/
namespace TaggedSuite

/-- How one byte is written between the given quotes: as a character of ASCII if it is one. -/
def escapeByte (quote : Char) (b : UInt8) : List Char :=
  if b.toNat < 0x7F then Text.escapeChar quote (Char.ofNat b.toNat)
  else '\\' :: 'x' :: Text.hexDigits 2 b.toNat

/-- How messages show bytes: between quotes, behind a letter. -/
def shownBytes (bs : List UInt8) : String :=
  let quote := Text.quoteFor (bs.map fun b => Char.ofNat b.toNat)
  String.ofList ('b' :: quote :: bs.flatMap (escapeByte quote) ++ [quote])

/-- How messages show a scalar. An integer with too many digits cannot be shown. -/
def Scalar.shown? : Scalar → Option String
  | .null => some "None"
  | .bool b => some (if b then "True" else "False")
  | .int i => Numeral.write? i
  | .num x => some x.text
  | .str s => some (Text.quoted s)
  | .day d => some d.shown
  | .moment m => some m.shown
  | .bytes bs => some (shownBytes bs)

mutual

/-- How messages show a value, if everything in it can be shown. -/
def Value.shown? : Value → Option String
  | .scalar s => s.shown?
  | .list items => return "[" ++ String.intercalate ", " (← shownItems? items) ++ "]"
  | .tuple [item] => return "(" ++ (← item.shown?) ++ ",)"
  | .tuple items => return "(" ++ String.intercalate ", " (← shownItems? items) ++ ")"
  | .map entries => return "\x7b" ++ String.intercalate ", " (← shownEntries? entries) ++ "\x7d"
  | .view entries =>
    return "mappingproxy(\x7b" ++ String.intercalate ", " (← shownEntries? entries) ++ "\x7d)"
  | .set [] => return "set()"
  | .set members =>
    return "\x7b" ++ String.intercalate ", " (← members.mapM Scalar.shown?) ++ "\x7d"

/-- The items of a list, each as messages show it. -/
def shownItems? : List Value → Option (List String)
  | [] => some []
  | v :: rest => return (← v.shown?) :: (← shownItems? rest)

/-- The entries of a mapping, each as messages show it. -/
def shownEntries? : List (Scalar × Value) → Option (List String)
  | [] => some []
  | (k, v) :: rest => return ((← k.shown?) ++ ": " ++ (← v.shown?)) :: (← shownEntries? rest)

end

/-- A scalar as a text: a text is itself, a day or moment is written out, anything else is shown. -/
def Scalar.plain? : Scalar → Option String
  | .str s => some s
  | .day d => some d.text
  | .moment m => some m.text
  | s => s.shown?

/-- A value as a text: a scalar as it is plainly, anything else is shown. -/
def Value.plain? : Value → Option String
  | .scalar s => s.plain?
  | v => v.shown?

@[simp] theorem Value.plain?_str (s : String) : (Value.str s).plain? = some s := rfl

/-- What has a text can be shown, and the other way round. -/
theorem Scalar.isSome_plain? (s : Scalar) : s.plain?.isSome = s.shown?.isSome := by
  cases s <;> simp only [plain?, shown?, Option.isSome_some]

theorem Value.isSome_plain? (v : Value) : v.plain?.isSome = v.shown?.isSome := by
  cases v with
  | scalar s => simpa only [plain?, shown?] using s.isSome_plain?
  | list _ | tuple _ | map _ | view _ | set _ => simp only [plain?]

end TaggedSuite

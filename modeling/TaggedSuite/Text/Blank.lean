import TaggedSuite.Text.CodeRange

/-!
# Blank characters

Whitespace is the class of all separators and of the control characters that end a line or a field.
The zero-width space does not belong to it. Trimming removes whitespace at both ends of a text.
-/
namespace TaggedSuite.Text

/-- The code points of whitespace. -/
def blankRanges : List (Nat × Nat) :=
  [(9, 13), (28, 32), (133, 133), (160, 160), (5760, 5760), (8192, 8202), (8232, 8233),
    (8239, 8239), (8287, 8287), (12288, 12288)]

/-- Whitespace in the sense of the whole character set, not of ASCII alone. -/
def isBlank (c : Char) : Bool := inRanges blankRanges c.toNat

theorem isBlank_space : isBlank ' ' = true := rfl

/-- The characters without the whitespace in front. -/
def trimLeft (cs : List Char) : List Char := cs.dropWhile isBlank

/-- The characters without the whitespace at the end. -/
def trimRight (cs : List Char) : List Char := (cs.reverse.dropWhile isBlank).reverse

/-- The characters without the whitespace at both ends. -/
def trim (cs : List Char) : List Char := trimRight (trimLeft cs)

@[simp] theorem trim_nil : trim [] = [] := rfl

/-- The text without the whitespace at both ends. -/
def strip (s : String) : String := String.ofList (trim s.toList)

@[simp] theorem toList_strip (s : String) : (strip s).toList = trim s.toList := by simp [strip]

end TaggedSuite.Text

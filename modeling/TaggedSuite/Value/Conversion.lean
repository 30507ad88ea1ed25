import TaggedSuite.Number.Numeral
import TaggedSuite.Time.Printer

/-!
# Faults of conversion

A text can be in order as a whole and still hold something that its kind has no value for: a numeral
that is none, a day that the calendar does not have, a word that is not known.
-/
namespace TaggedSuite

/-- Why a part of a text has no value. -/
inductive ConversionFault where
  | numeral (f : Numeral.Fault)
  /-- A numeral without any character. -/
  | emptyNumeral
  /-- A number in base sixty has a place whose value is no number of 64 bits. -/
  | placeTooLarge
  | calendar (e : CalendarError)
  /-- The characters are not in the form of a day or a moment. -/
  | notTime
  /-- A mapping stands where a day or a moment is asked for. -/
  | timeOfMapping
  | unknownWord (word : String)
  /-- A code lies beyond that of the last character. -/
  | noCharacter
  /-- A code is no number of 32 bits. -/
  | codeTooLarge
  deriving DecidableEq, Repr

def ConversionFault.message : ConversionFault → String
  | numeral f => f.message
  | emptyNumeral => "string index out of range"
  | placeTooLarge => "int too large to convert to float"
  | calendar e => e.message
  | notTime => "'NoneType' object has no attribute 'groupdict'"
  | timeOfMapping => "expected string or bytes-like object, got 'list'"
  | unknownWord word => Text.quoted word
  | noCharacter => "chr() arg not in range(0x110000)"
  | codeTooLarge => "Python int too large to convert to C int"

end TaggedSuite

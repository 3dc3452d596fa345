import Nomenclator.Text.Basic

/-!
# Why decoding stops

A malformed text is blamed on a place, given by the text that remains there. Two limits stop the
decoder without a place: the nesting of brackets and the length of an integer.
-/

namespace Nomenclator.Json

inductive Problem where
  | propertyName
  | colon
  | comma
  | value
  | unterminatedText
  | controlCharacter
  | escape
  | unicodeEscape
  | extraData
  | byteOrderMark
deriving DecidableEq, Repr

namespace Problem

def message : Problem → Text
  | propertyName => "Expecting property name enclosed in double quotes"
  | colon => "Expecting ':' delimiter"
  | comma => "Expecting ',' delimiter"
  | value => "Expecting value"
  | unterminatedText => "Unterminated string starting at"
  | controlCharacter => "Invalid control character at"
  | escape => "Invalid \\escape"
  | unicodeEscape => "Invalid \\uXXXX escape"
  | extraData => "Extra data"
  | byteOrderMark => "Unexpected UTF-8 BOM (decode using utf-8-sig)"

end Problem

inductive Stop where
  | malformed (problem : Problem) (rest : Text)
  | integerTooLong (digits : Nat)
  | tooDeep
deriving DecidableEq, Repr

/-- Line and column count from one, the position from zero; only a line feed ends a line. -/
def placeText (before : Text) : Text :=
  let line := before.count ⟨0x0A⟩ + 1
  let column := (before.reverse.takeWhile fun r => r ≠ ⟨0x0A⟩).length + 1
  Text.concat
    ["line ", Text.ofNat line, " column ", Text.ofNat column, " (char ", Text.ofNat before.length,
      ")"]

/-- The limit on the digits of an integer. -/
def integerDigits : Nat := 4300

def integerTooLongMessage (digits : Nat) : Text :=
  Text.concat
    ["Exceeds the limit (", Text.ofNat integerDigits,
      " digits) for integer string conversion: value has ", Text.ofNat digits,
      " digits; use sys.set_int_max_str_digits() to increase the limit"]

/-- Why a text did not decode, once the place is known. Excessive nesting is no such cause: it ends
the run. -/
inductive Cause where
  | malformed (problem : Problem) (before : Text)
  | integerTooLong (digits : Nat)
deriving DecidableEq, Repr

def Cause.message : Cause → Text
  | malformed problem before => Text.concat [problem.message, ": ", placeText before]
  | integerTooLong digits => integerTooLongMessage digits

end Nomenclator.Json

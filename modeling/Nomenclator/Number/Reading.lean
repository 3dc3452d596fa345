import Nomenclator.Number.Binary64
import Nomenclator.Text.Blank
import Nomenclator.Text.Digit

/-!
# Reading numbers from text

A real number in a setting or an option: optional sign, digits of any script with single underscores
between them, at most one point, an optional exponent, or one of the words for infinity and NaN.
Blanks around it do not matter.
-/

namespace Nomenclator

/-- Characters of the class `p` with single underscores between them, underscores left out, and the
text after them. -/
def takeGrouped (p : Rune → Bool) : Text → Text × Text
  | a :: ⟨0x5F⟩ :: rest =>
    if p a then
      match takeGrouped p rest with
      | ([], _) => ([a], ⟨0x5F⟩ :: rest)
      | (more, tail) => (a :: more, tail)
    else ([], a :: ⟨0x5F⟩ :: rest)
  | a :: rest =>
    if p a then
      let (more, tail) := takeGrouped p rest
      (a :: more, tail)
    else ([], a :: rest)
  | [] => ([], [])

def takeDigits (t : Text) : Text × Text := takeGrouped Rune.isAsciiDigit t

/-- An optional exponent at the end of a number: `none` when something else follows. -/
def readExponent? : Text → Option Int
  | [] => some 0
  | e :: rest =>
    if e = 'e' ∨ e = 'E' then
      let (negative, rest) :=
        match rest with
        | ⟨0x2D⟩ :: rest => (true, rest)
        | ⟨0x2B⟩ :: rest => (false, rest)
        | rest => (false, rest)
      match takeDigits rest with
      | ([], _) => none
      | (digits, []) =>
        let n : Int := Text.digitsValue digits
        some (if negative then -n else n)
      | _ => none
    else none

def readUnsigned? (negative : Bool) (t : Text) : Option Binary64 :=
  let word := Text.asciiLower t
  if word = "nan" then some .nan
  else if word = "inf" ∨ word = "infinity" then some (.infinity negative)
  else
    let (whole, rest) := takeDigits t
    let (fraction, rest) :=
      match rest with
      | ⟨0x2E⟩ :: rest => takeDigits rest
      | rest => ([], rest)
    if whole.isEmpty && fraction.isEmpty then none
    else
      (readExponent? rest).map fun e =>
        Binary64.ofDecimal negative (Text.digitsValue (whole ++ fraction)) (e - fraction.length)

/-- Digits of other scripts become ASCII digits, other white space becomes blanks; the first
character that is neither ends the number in a question mark, which no number holds. -/
def toAsciiNumber : Text → Text
  | [] => []
  | r :: rest =>
    if r.code < 0x7F then r :: toAsciiNumber rest
    else if r.isBlank then Rune.ofChar ' ' :: toAsciiNumber rest
    else
      match r.decimalValue? with
      | some d => ⟨0x30 + d⟩ :: toAsciiNumber rest
      | none => [Rune.ofChar '?']

/-- The blanks that may stand around a number. -/
def isNumberPadding (r : Rune) : Bool := r.within 0x09 0x0D || r.code == 0x20

def readReal? (t : Text) : Option Binary64 :=
  match Text.trim isNumberPadding (toAsciiNumber t) with
  | ⟨0x2D⟩ :: rest => readUnsigned? true rest
  | ⟨0x2B⟩ :: rest => readUnsigned? false rest
  | rest => readUnsigned? false rest

end Nomenclator

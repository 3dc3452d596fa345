import Nomenclator.Number.Reading
import Nomenclator.Value.Basic

/-!
# TOML scalars

Strings, numbers, dates and times at the start of a text. Line ends are line feeds here.
-/

namespace Nomenclator.Toml

/-- Why reading stops. The place of a fault is of no interest to anyone. -/
inductive Stop where
  | malformed
  | integerTooLong (digits : Nat)
  | tooDeep
deriving DecidableEq, Repr

def isLineFeed (r : Rune) : Bool := r.code == 0x0A

def isSpace (r : Rune) : Bool := r.code == 0x20 || r.code == 0x09

def isGap (r : Rune) : Bool := isSpace r || isLineFeed r

/-- Control characters have no place in a document, tabs and line feeds aside. -/
def isForbidden (r : Rune) : Bool := (r.code < 0x20 && r.code != 0x09) || r.code == 0x7F

def skipSpaces (s : Text) : Text := s.dropWhile isSpace

def quote : Rune := ⟨0x22⟩

def apostrophe : Rune := ⟨0x27⟩

/-! ## Strings -/

def shortEscape? (r : Rune) : Option Rune :=
  if r = 'b' then some ⟨0x08⟩
  else if r = 't' then some ⟨0x09⟩
  else if r = 'n' then some ⟨0x0A⟩
  else if r = 'f' then some ⟨0x0C⟩
  else if r = 'r' then some ⟨0x0D⟩
  else if r = '"' ∨ r = '\\' then some r
  else none

/-- The code point that `digits` hexadecimal digits spell; surrogates are no characters. -/
def hexRune? (digits : Nat) (s : Text) : Option Rune :=
  let spelled := s.take digits
  let r : Rune := ⟨spelled.foldl (fun n d => n * 16 + d.hexValue?.getD 0) 0⟩
  if spelled.length = digits ∧ spelled.all Rune.isHexDigit ∧ r.code < 0x110000 ∧ !r.isSurrogate then
    some r
  else none

/-- What the text after a backslash stands for, and how many characters of it belong to the escape.
Over several lines a backslash at the end of a line swallows the blanks up to the next word. -/
def escape? (multiline : Bool) (s : Text) : Option (Text × Nat) :=
  match s with
  | [] => none
  | r :: rest =>
    if multiline && isGap r then
      let spaces := (s.takeWhile isSpace).length
      match s.dropWhile isSpace with
      | [] => some ([], spaces)
      | next :: after =>
        if isLineFeed next then some ([], spaces + 1 + (after.takeWhile isGap).length) else none
    else if r = 'u' then (hexRune? 4 rest).map fun c => ([c], 5)
    else if r = 'U' then (hexRune? 8 rest).map fun c => ([c], 9)
    else (shortEscape? r).map fun c => ([c], 1)

/-- The content of a string in quotes and the text after the closing quotes. -/
def readBasic (multiline : Bool) (s : Text) : Except Stop (Text × Text) :=
  match s with
  | [] => .error .malformed
  | r :: rest =>
    if r = quote then
      if !multiline then .ok ([], rest)
      else if [quote, quote].isPrefixOf rest then .ok ([], rest.drop 2)
      else (readBasic multiline rest).map fun (content, after) => (r :: content, after)
    else if r = '\\' then
      match escape? multiline rest with
      | none => .error .malformed
      | some (spelled, n) =>
        (readBasic multiline (rest.drop n)).map fun (content, after) => (spelled ++ content, after)
    else if isForbidden r && !(multiline && isLineFeed r) then .error .malformed
    else (readBasic multiline rest).map fun (content, after) => (r :: content, after)
termination_by s.length
decreasing_by all_goals simp only [List.length_drop, List.length_cons]; omega

/-- The content of a string in apostrophes, which knows no escapes, and the text after it. -/
def readLiteral (multiline : Bool) : Text → Except Stop (Text × Text)
  | [] => .error .malformed
  | r :: rest =>
    if r = apostrophe && (!multiline || [apostrophe, apostrophe].isPrefixOf rest) then
      .ok ([], if multiline then rest.drop 2 else rest)
    else if isForbidden r && !(multiline && isLineFeed r) then .error .malformed
    else (readLiteral multiline rest).map fun (content, after) => (r :: content, after)

/-- Up to two more quotes before the closing ones belong to the content. -/
def takeLastQuotes (mark : Rune) (taken : Text × Text) : Text × Text :=
  let extra := min 2 (taken.2.takeWhile (· == mark)).length
  (taken.1 ++ List.replicate extra mark, taken.2.drop extra)

/-- A line feed right after the opening quotes is no content. -/
def dropFirstLineFeed : Text → Text
  | ⟨0x0A⟩ :: rest => rest
  | s => s

/-- A string whose opening quotes are of the kind `mark`. `s` follows the first of them. -/
def readMultilineOr (mark : Rune) (read : Bool → Text → Except Stop (Text × Text)) (s : Text) :
    Except Stop (Text × Text) :=
  if [mark, mark].isPrefixOf s then
    (read true (dropFirstLineFeed (s.drop 2))).map (takeLastQuotes mark)
  else read false s

/-! ## Dates and times -/

/-- Two digits that spell a number from `low` to `high`. -/
def twoDigits? (low high : Nat) : Text → Option (Nat × Text)
  | a :: b :: rest =>
    let n := Text.digitsValue [a, b]
    if a.isAsciiDigit && b.isAsciiDigit && low ≤ n && n ≤ high then some (n, rest) else none
  | _ => none

def expect? (r : Rune) : Text → Option Text
  | first :: rest => if first = r then some rest else none
  | [] => none

/-- Digits beyond the sixth are cut off. -/
def microseconds (digits : Text) : Nat :=
  Text.digitsValue ((digits ++ List.replicate 6 (Rune.ofChar '0')).take 6)

def readTime? (s : Text) : Option (TimeOfDay × Text) := do
  let (hour, s) ← twoDigits? 0 23 s
  let s ← expect? ':' s
  let (minute, s) ← twoDigits? 0 59 s
  let s ← expect? ':' s
  let (second, s) ← twoDigits? 0 59 s
  match s with
  | ⟨0x2E⟩ :: after =>
    let digits := after.takeWhile Rune.isAsciiDigit
    if digits.isEmpty then return (⟨hour, minute, second, 0⟩, s)
    else return (⟨hour, minute, second, microseconds digits⟩, after.drop digits.length)
  | _ => return (⟨hour, minute, second, 0⟩, s)

def readDate? (s : Text) : Option (Date × Text) := do
  let (century, s) ← twoDigits? 0 99 s
  let (year, s) ← twoDigits? 0 99 s
  let s ← expect? '-' s
  let (month, s) ← twoDigits? 1 12 s
  let s ← expect? '-' s
  let (day, s) ← twoDigits? 1 31 s
  return (⟨century * 100 + year, month, day⟩, s)

/-- An offset from universal time in minutes. -/
def readOffset? (s : Text) : Option (Int × Text) :=
  match s with
  | [] => none
  | sign :: rest =>
    if sign = 'Z' ∨ sign = 'z' then some (0, rest)
    else if sign = '+' ∨ sign = '-' then do
      let (hours, s) ← twoDigits? 0 23 rest
      let s ← expect? ':' s
      let (minutes, s) ← twoDigits? 0 59 s
      let total : Int := hours * 60 + minutes
      return (if sign = '-' then -total else total, s)
    else none

/-- The time after a date, if there is one. -/
def readDateTime (date : Date) (s : Text) : Moment × Text :=
  match s with
  | [] => (.date date, s)
  | mark :: rest =>
    match if mark = 'T' ∨ mark = 't' ∨ mark = ' ' then readTime? rest else none with
    | none => (.date date, s)
    | some (time, after) =>
      match readOffset? after with
      | some (offset, after) => (.dateTime date time (some offset), after)
      | none => (.dateTime date time none, after)

/-- A date has to be one of the calendar. -/
def readMoment? (s : Text) : Option (Except Stop (Moment × Text)) :=
  match readDate? s with
  | some (date, rest) =>
    some (if date.isValid then .ok (readDateTime date rest) else .error .malformed)
  | none => (readTime? s).map fun (time, rest) => .ok (.time time, rest)

/-! ## Numbers -/

/-- An integer to another base than ten: the base by its letter, the digits it has. -/
def digitClass? (letter : Rune) : Option (Nat × (Rune → Bool)) :=
  if letter = 'x' then some (16, Rune.isHexDigit)
  else if letter = 'o' then some (8, fun r => r.within 0x30 0x37)
  else if letter = 'b' then some (2, fun r => r.within 0x30 0x31)
  else none

def readOtherBase? (s : Text) : Option (Int × Text) :=
  match s with
  | ⟨0x30⟩ :: letter :: rest => do
    let (base, isDigit) ← digitClass? letter
    match takeGrouped isDigit rest with
    | ([], _) => none
    | (digits, after) =>
      some (digits.foldl (fun n d => n * base + d.hexValue?.getD 0) 0, after)
  | _ => none

/-- A whole part has no leading zeros. -/
def takeWhole : Text → Text × Text
  | ⟨0x30⟩ :: rest => ([⟨0x30⟩], rest)
  | s => takeDigits s

/-- A part of a number that a mark introduces and that has at least one digit. -/
def takeMarked (isMark : Rune → Bool) (signs : Bool) (s : Text) : Option (Bool × Text) × Text :=
  match s with
  | [] => (none, s)
  | mark :: rest =>
    if isMark mark then
      let (negative, rest) :=
        match rest with
        | ⟨0x2D⟩ :: after => if signs then (true, after) else (false, rest)
        | ⟨0x2B⟩ :: after => if signs then (false, after) else (false, rest)
        | _ => (false, rest)
      match takeDigits rest with
      | ([], _) => (none, s)
      | (digits, after) => (some (negative, digits), after)
    else (none, s)

def integerDigits : Nat := 4300

def readDecimal? (negative : Bool) (s : Text) : Option (Except Stop Value × Text) :=
  match takeWhole s with
  | ([], _) => none
  | (whole, rest) =>
    let (fraction, rest) := takeMarked (· == '.') false rest
    let (exponent, rest) := takeMarked (fun r => r == 'e' || r == 'E') true rest
    if fraction.isNone && exponent.isNone then
      let n : Int := Text.digitsValue whole
      if integerDigits < whole.length then some (.error (.integerTooLong whole.length), rest)
      else some (.ok (.integer (if negative then -n else n)), rest)
    else
      let places := (fraction.map (·.2)).getD []
      let power : Int :=
        match exponent with
        | some (true, digits) => -(Text.digitsValue digits : Int)
        | some (false, digits) => Text.digitsValue digits
        | none => 0
      some
        (.ok (.real (Binary64.ofDecimal negative (Text.digitsValue (whole ++ places))
          (power - places.length))), rest)

/-- The words for infinity and NaN. -/
def readWord? (negative : Bool) (s : Text) : Option (Value × Text) :=
  if (Text.ofString "inf").isPrefixOf s then some (.real (.infinity negative), s.drop 3)
  else if (Text.ofString "nan").isPrefixOf s then some (.real .nan, s.drop 3)
  else none

def readSigned? (negative : Bool) (s : Text) : Option (Except Stop Value × Text) :=
  match readDecimal? negative s with
  | some taken => some taken
  | none => (readWord? negative s).map fun (v, rest) => (.ok v, rest)

def readNumber? (s : Text) : Option (Except Stop Value × Text) :=
  match readOtherBase? s with
  | some (n, rest) => some (.ok (.integer n), rest)
  | none =>
    match s with
    | ⟨0x2D⟩ :: rest => readSigned? true rest
    | ⟨0x2B⟩ :: rest => readSigned? false rest
    | _ => readSigned? false s

/-! ## All scalars -/

def readScalar (s : Text) : Except Stop (Value × Text) :=
  match s with
  | ⟨0x22⟩ :: rest => (readMultilineOr quote readBasic rest).map fun (t, after) => (.text t, after)
  | ⟨0x27⟩ :: rest =>
    (readMultilineOr apostrophe readLiteral rest).map fun (t, after) => (.text t, after)
  | _ =>
    if (Text.ofString "true").isPrefixOf s then .ok (.boolean true, s.drop 4)
    else if (Text.ofString "false").isPrefixOf s then .ok (.boolean false, s.drop 5)
    else
      match readMoment? s with
      | some taken => taken.map fun (m, rest) => (.moment m, rest)
      | none =>
        match readNumber? s with
        | some (.ok v, rest) => .ok (v, rest)
        | some (.error stop, _) => .error stop
        | none => .error .malformed

end Nomenclator.Toml

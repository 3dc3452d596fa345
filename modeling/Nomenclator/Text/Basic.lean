/-!
# Text

A text is a list of code points. Lone surrogates are allowed: JSON escapes can spell them, so a
model's answer may hold one, and only the encoder of files has to refuse it.
-/

namespace Nomenclator

/-- One code point. -/
structure Rune where
  code : Nat
deriving DecidableEq, Repr, Inhabited

namespace Rune

def ofChar (c : Char) : Rune := ⟨c.toNat⟩

instance : Coe Char Rune := ⟨ofChar⟩

/-- Is the code point at least `low` and at most `high`? -/
def within (r : Rune) (low high : Nat) : Bool := low ≤ r.code && r.code ≤ high

def isAsciiDigit (r : Rune) : Bool := r.within 0x30 0x39

def isAsciiUpper (r : Rune) : Bool := r.within 0x41 0x5A

def isAsciiLower (r : Rune) : Bool := r.within 0x61 0x7A

def isAsciiLetter (r : Rune) : Bool := r.isAsciiUpper || r.isAsciiLower

def isLineFeed (r : Rune) : Bool := r.code == 0x0A

def isBackslash (r : Rune) : Bool := r.code == 0x5C

def isApostrophe (r : Rune) : Bool := r.code == 0x27

/-- A surrogate is a code point that UTF-8 cannot carry. -/
def isSurrogate (r : Rune) : Bool := r.within 0xD800 0xDFFF

/-- The value of a hexadecimal digit. -/
def hexValue? (r : Rune) : Option Nat :=
  if r.isAsciiDigit then some (r.code - 0x30)
  else if r.within 0x41 0x46 then some (r.code - 0x41 + 10)
  else if r.within 0x61 0x66 then some (r.code - 0x61 + 10)
  else none

def isHexDigit (r : Rune) : Bool := r.hexValue?.isSome

end Rune

abbrev Text := List Rune

namespace Text

def ofString (s : String) : Text := s.toList.map Rune.ofChar

instance : Coe String Text := ⟨ofString⟩

/-- The pieces one after the other. -/
def concat (pieces : List Text) : Text := pieces.flatten

/-- The pieces with `sep` between each two. -/
def join (sep : Text) : List Text → Text
  | [] => []
  | [piece] => piece
  | piece :: rest => piece ++ sep ++ join sep rest

def blanks (n : Nat) : Text := List.replicate n ' '

/-! ## Numbers -/

def ofNat (n : Nat) : Text := ofString (toString n)

def ofInt (n : Int) : Text :=
  match n with
  | .ofNat n => ofNat n
  | .negSucc n => Rune.ofChar '-' :: ofNat (n + 1)

/-- Lower-case hexadecimal with at least `width` digits. -/
def ofHex (width n : Nat) : Text :=
  let digits := (Nat.toDigits 16 n).map fun c => Rune.ofChar c
  List.replicate (width - digits.length) (Rune.ofChar '0') ++ digits

/-- The number that a list of decimal digits spells. -/
def digitsValue (digits : Text) : Nat :=
  digits.foldl (fun n d => n * 10 + (d.code - 0x30)) 0

/-! ## Cutting -/

def startsWith (t head : Text) : Bool := head.isPrefixOf t

def endsWith (t tail : Text) : Bool := tail.isSuffixOf t

/-- The pieces between the occurrences of `sep`; always at least one. -/
def piecesAt (sep : Rune) : Text → List Text
  | [] => [[]]
  | r :: rest =>
    if r = sep then [] :: piecesAt sep rest
    else
      match piecesAt sep rest with
      | [] => [[r]]
      | piece :: pieces => (r :: piece) :: pieces

/-- The pieces between line feeds. -/
def lines (t : Text) : List Text := piecesAt ⟨0x0A⟩ t

def dropEndWhile (p : Rune → Bool) (t : Text) : Text := (t.reverse.dropWhile p).reverse

def trim (p : Rune → Bool) (t : Text) : Text := dropEndWhile p (t.dropWhile p)

/-- Every occurrence of `old`, from the left and without overlap, becomes `new`. An empty `old`
occurs nowhere. -/
def replaceAll (t old new : Text) : Text :=
  match t with
  | [] => []
  | r :: rest =>
    if old ≠ [] ∧ old.isPrefixOf (r :: rest) then
      new ++ replaceAll (rest.drop (old.length - 1)) old new
    else r :: replaceAll rest old new
termination_by t.length
decreasing_by
  all_goals simp only [List.length_cons, List.length_drop]
  all_goals omega

/-- The text after the first occurrence of `sep`, with the text before it. -/
def cutAt? (sep : Rune) : Text → Option (Text × Text)
  | [] => none
  | r :: rest =>
    if r = sep then some ([], rest)
    else (cutAt? sep rest).map fun p => (r :: p.1, p.2)

/-! ## Order -/

/-- Dictionary order by code point. -/
def le : Text → Text → Bool
  | [], _ => true
  | _ :: _, [] => false
  | a :: s, b :: t => if a.code < b.code then true else if b.code < a.code then false else le s t

/-- Dictionary order on lists of texts. -/
def leList : List Text → List Text → Bool
  | [], _ => true
  | _ :: _, [] => false
  | a :: s, b :: t => if a = b then leList s t else le a b

def asciiLower (t : Text) : Text :=
  t.map fun r => if r.isAsciiUpper then ⟨r.code + 0x20⟩ else r

end Text

end Nomenclator

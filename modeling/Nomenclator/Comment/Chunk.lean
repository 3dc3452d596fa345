import Nomenclator.Text.Digit
import Nomenclator.Text.Tabs
import Nomenclator.Text.Word

/-!
# Chunks

The pieces between which a paragraph may be broken: runs of blanks, words, the parts of a hyphenated
word with the hyphen at the end of the first, and dashes between words.
-/

namespace Nomenclator.Chunk

/-- The only blank left after white space has been unified. -/
def isSpace (r : Rune) : Bool := r.code == 0x20

def isHyphen (r : Rune) : Bool := r.code == 0x2D

def isLetter (r : Rune) : Bool := r.isWord && r.decimalValue?.isNone

/-- A character after which a dash is taken for one between words. -/
def isWordOrPunctuation (r : Rune) : Bool :=
  r.isWord || (Text.ofString "!\"'&.,?").contains r

/-- Are there two or more hyphens and then a word? -/
def dashesBeforeWord (s : Text) : Bool :=
  2 ≤ (s.takeWhile isHyphen).length && (s.dropWhile isHyphen).head?.any Rune.isWord

/-- Does a text begin with two letters, or with a letter, a hyphen and a letter? A hyphenated word
is broken where that holds on both sides of the hyphen. -/
def beginsWithTwoLetters : Text → Bool
  | a :: b :: rest => isLetter a && (isLetter b || (isHyphen b && rest.head?.any isLetter))
  | _ => false

/-- The length of the rest of a word that has begun; `before` holds the characters before `s`, the
last one first. -/
def restOfWord (before : Text) : Text → Nat
  | [] => 0
  | r :: rest =>
    if isSpace r then 0
    else if isHyphen r && beginsWithTwoLetters before && beginsWithTwoLetters rest then 1
    else if before.head?.any isWordOrPunctuation && dashesBeforeWord (r :: rest) then 0
    else restOfWord (r :: before) rest + 1

/-- The length of the chunk at the start of a text that is not empty. -/
def length (before : Text) (s : Text) : Nat :=
  match s with
  | [] => 0
  | r :: rest =>
    if isSpace r then (s.takeWhile isSpace).length
    else if before.head?.any isWordOrPunctuation && dashesBeforeWord s then
      (s.takeWhile isHyphen).length
    else restOfWord (r :: before) rest + 1

/-- The chunks of a text, in order. -/
def split (before s : Text) : List Text :=
  match s with
  | [] => []
  | r :: rest =>
    let n := length before (r :: rest) - 1
    (r :: rest.take n) :: split ((rest.take n).reverse ++ r :: before) (rest.drop n)
termination_by s.length
decreasing_by simp only [List.length_drop, List.length_cons]; omega

/-- Tabs are expanded and the other white space of ASCII becomes a blank. -/
def unifySpaces (t : Text) : Text :=
  (t.expandTabs 8).map fun r => if r.within 0x09 0x0D then ⟨0x20⟩ else r

def ofText (t : Text) : List Text := split [] (unifySpaces t)

end Nomenclator.Chunk

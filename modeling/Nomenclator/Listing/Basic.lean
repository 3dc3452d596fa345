import Nomenclator.Log
import Nomenclator.Text.Blank

/-!
# Listings

A decompiler writes a whole program into one file and puts a line with the address of the function
above each one. Splitting a listing takes it apart at these lines.
-/

namespace Nomenclator.Listing

/-- One function of a listing with the line that names its address. Text without such lines is one
block with an empty separator. -/
structure Block where
  separator : Text
  body : Text
deriving DecidableEq, Repr

/-! ## Separators -/

def isDash (r : Rune) : Bool := r.code == 0x2D

def isSpaceOrTab (r : Rune) : Bool := r.code == 0x20 || r.code == 0x09

def isLineBreak (r : Rune) : Bool := r.code == 0x0A || r.code == 0x0D

def atLineEnd : Text → Bool
  | [] => true
  | r :: _ => r.code == 0x0A

/-- Takes one optional carriage return. -/
def dropReturn : Text → Text
  | ⟨0x0D⟩ :: rest => rest
  | s => s

/-- What follows the closing parenthesis of a separator, up to where the separator ends. Dashes may
follow after white space, then blanks, up to the end of a line; without dashes the separator ends
before the last line feed of the white space. The answer is the text after the separator. -/
def separatorEnd? (s : Text) : Option Text :=
  let blanks := s.takeWhile Rune.isBlank
  let rest := s.dropWhile Rune.isBlank
  let closed := dropReturn ((rest.dropWhile isDash).dropWhile isSpaceOrTab)
  if atLineEnd closed then some closed
  else
    -- without an end of line here, the white space itself has to hold one
    let tail := (blanks.reverse.takeWhile fun r => r.code != 0x0A).length
    if tail < blanks.length then some (s.drop (blanks.length - tail - 1)) else none

/-- The text after a separator at the start of `s`, if there is one: two slashes, at least three
dashes, a hexadecimal number in parentheses, and what `separatorEnd?` allows. -/
def afterSeparator? : Text → Option Text
  | ⟨0x2F⟩ :: ⟨0x2F⟩ :: s =>
    if (s.takeWhile isDash).length < 3 then none
    else
      match (s.dropWhile isDash).dropWhile Rune.isBlank with
      | ⟨0x28⟩ :: s =>
        if (s.takeWhile Rune.isHexDigit).isEmpty then none
        else
          match s.dropWhile Rune.isHexDigit with
          | ⟨0x29⟩ :: s => separatorEnd? s
          | _ => none
      | _ => none
  | _ => none

/-- The separator at the start of `s`. -/
def separator? (s : Text) : Option Text :=
  (afterSeparator? s).map fun rest => s.take (s.length - rest.length)

/-! ## Splitting -/

/-- Cuts a text into what stands before the first separator and, for each separator, the text up to
the next one. A separator is looked for at the start of each line. -/
def cut (atLineStart : Bool) (s : Text) : Text × List (Text × Text) :=
  match s with
  | [] => ([], [])
  | r :: rest =>
    match if atLineStart then separator? (r :: rest) else none with
    | some separator =>
      let (body, more) := cut false (rest.drop (separator.length - 1))
      ([], (separator, body) :: more)
    | none =>
      let (before, more) := cut (r.code == 0x0A) rest
      (r :: before, more)
termination_by s.length
decreasing_by all_goals simp only [List.length_drop, List.length_cons]; omega

/-- The block of a separator and the text below it, unless that text is blank. -/
def block? (piece : Text × Text) : Option Block :=
  let body := Text.trim isLineBreak piece.2
  if Text.isBlank body then none
  else some ⟨Text.dropEndWhile (fun r => r.code == 0x0D) piece.1, body ++ [⟨0x0A⟩]⟩

def blocks (text : Text) : List Block :=
  match (cut true text).2 with
  | [] => if Text.isBlank text then [] else [⟨[], text⟩]
  | pieces => pieces.filterMap block?

def functions (text : Text) : List Text := (blocks text).map Block.body

/-- A listing with separators tells how many functions it has. -/
def log (text : Text) : Log :=
  match (cut true text).2 with
  | [] => []
  | pieces =>
    [⟨.debug, .listing,
      Text.concat
        ["Split input into ", Text.ofNat (pieces.filterMap block?).length, " function(s)"]⟩]

end Nomenclator.Listing

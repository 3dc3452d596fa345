import Nomenclator.Console.PictureNames
import Nomenclator.Text.Blank

/-!
# Pictures by name

A name between two colons stands for a picture; `-text` or `-emoji` after the name asks for one of
two ways to show it. What is no name of a picture is left as it is.
-/

namespace Nomenclator.Console.Picture

def colon : Rune := ⟨0x3A⟩

/-- Letters in lower case; besides ASCII those that occur in names. -/
def lowerRune (r : Rune) : Rune :=
  if r.isAsciiUpper then ⟨r.code + 0x20⟩
  else if r.within 0xC0 0xDE && r.code != 0xD7 then ⟨r.code + 0x20⟩
  else if r.code = 0x212A then ⟨0x6B⟩
  else if r.code = 0x212B then ⟨0xE5⟩
  else r

def hexNumber (digits : Text) : Nat := digits.foldl (fun n d => n * 16 + d.hexValue?.getD 0) 0

/-- The picture in an entry, if it has the wanted name. -/
def inEntry (name : Text) (entry : Text) : Option Text :=
  match Text.cutAt? colon entry with
  | some (entryName, codes) =>
    if entryName = name then
      some ((Text.piecesAt ⟨0x2D⟩ codes).map fun code => ⟨hexNumber code⟩)
    else none
  | none => none

/-- The picture of a name, in whatever case. -/
def ofName? (name : Text) : Option Text :=
  let name := name.map lowerRune
  entries.findSome? fun line =>
    (Text.piecesAt ⟨0x20⟩ (Text.ofString line)).findSome? (inEntry name)

/-- How a picture is to be shown. -/
inductive Style where
  | plain
  | text
  | picture

def Style.mark : Style → Text
  | plain => []
  | text => [⟨0xFE0E⟩]
  | picture => [⟨0xFE0F⟩]

/-- The end of a reference: an optional style and a colon. The answer is the style and its
length. -/
def ending? (s : Text) : Option (Style × Nat) :=
  if (Text.ofString "-emoji:").isPrefixOf s then some (.picture, 7)
  else if (Text.ofString "-text:").isPrefixOf s then some (.text, 6)
  else if [colon].isPrefixOf s then some (.plain, 1)
  else none

/-- The name, the style and the length of a reference, after its first colon. -/
def reference? : Text → Option (Text × Style × Nat)
  | [] => none
  | r :: rest =>
    match ending? (r :: rest) with
    | some (style, n) => some ([], style, n)
    | none =>
      if r.isBlank then none
      else (reference? rest).map fun (name, style, n) => (r :: name, style, n + 1)

/-- Puts pictures in place of their names. -/
def replaceNames (s : Text) : Text :=
  match s with
  | [] => []
  | r :: rest =>
    if r = colon then
      match reference? rest with
      | some (name, style, n) =>
        let shown :=
          match ofName? name with
          | some picture => picture ++ style.mark
          | none => r :: rest.take n
        shown ++ replaceNames (rest.drop n)
      | none => r :: replaceNames rest
    else r :: replaceNames rest
termination_by s.length
decreasing_by all_goals simp only [List.length_drop, List.length_cons]; omega

end Nomenclator.Console.Picture

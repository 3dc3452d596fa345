import Nomenclator.Value.Basic

/-!
# Printing JSON

Values as JSON text in ASCII: other characters are written as escapes, those beyond the first plane
as surrogate pairs.
-/

namespace Nomenclator.Json

def unicodeEscape (n : Nat) : Text := "\\u" ++ Text.ofHex 4 n

def escapedRune (r : Rune) : Text :=
  if r.code = 0x22 ∨ r.code = 0x5C then [⟨0x5C⟩, r]
  else if r.code = 0x0A then "\\n"
  else if r.code = 0x0D then "\\r"
  else if r.code = 0x09 then "\\t"
  else if r.code = 0x08 then "\\b"
  else if r.code = 0x0C then "\\f"
  else if r.within 0x20 0x7E then [r]
  else if r.code < 0x10000 then unicodeEscape r.code
  else
    unicodeEscape (0xD800 + (r.code - 0x10000) / 0x400) ++
      unicodeEscape (0xDC00 + (r.code - 0x10000) % 0x400)

def quote (t : Text) : Text := ⟨0x22⟩ :: t.flatMap escapedRune ++ [⟨0x22⟩]

/-- What separates the items of a list or table: nothing but a blank after the comma, or line feeds
and two more blanks per level. -/
inductive Layout where
  | line
  | indented (level : Nat)

namespace Layout

def inner : Layout → Layout
  | line => line
  | indented level => indented (level + 1)

def lineBreak : Layout → Text
  | line => []
  | indented level => ⟨0x0A⟩ :: Text.blanks (2 * level)

def separator : Layout → Text
  | line => ", "
  | indented level => Rune.ofChar ',' :: (indented level).lineBreak

/-- The items between an opening and a closing bracket. -/
def enclose (layout : Layout) (opening closing : Rune) (items : List Text) : Text :=
  if items.isEmpty then [opening, closing]
  else
    Text.concat
      [[opening], layout.inner.lineBreak, Text.join layout.inner.separator items, layout.lineBreak,
        [closing]]

end Layout

mutual

def print (layout : Layout) : Value → Text
  | .null => "null"
  | .boolean true => "true"
  | .boolean false => "false"
  | .integer n => Text.ofInt n
  | .real x => x.written
  | .text t => quote t
  | .list items => layout.enclose ⟨0x5B⟩ ⟨0x5D⟩ (printItems layout.inner items)
  | .table entries => layout.enclose ⟨0x7B⟩ ⟨0x7D⟩ (printEntries layout.inner entries)
  | .moment m => quote m.shown

def printItems (layout : Layout) : List Value → List Text
  | [] => []
  | item :: rest => print layout item :: printItems layout rest

def printEntries (layout : Layout) : List (Text × Value) → List Text
  | [] => []
  | (key, value) :: rest =>
    Text.concat [quote key, ": ", print layout value] :: printEntries layout rest

end

end Nomenclator.Json

import Nomenclator.Text.Printable

/-!
# Quoted text

How a text is shown inside a message: in single quotes, or in double quotes when it holds a single
quote and no double quote, with backslash escapes for what cannot be printed.
-/

namespace Nomenclator.Text

/-- One character between quotes of the kind `quote`. -/
def quotedRune (quote r : Rune) : Text :=
  if r = quote ∨ r = '\\' then ['\\', r]
  else if r.code = 0x0A then "\\n"
  else if r.code = 0x0D then "\\r"
  else if r.code = 0x09 then "\\t"
  else if r.isPrintable then [r]
  else if r.code < 0x100 then "\\x" ++ ofHex 2 r.code
  else if r.code < 0x10000 then "\\u" ++ ofHex 4 r.code
  else "\\U" ++ ofHex 8 r.code

def quoteFor (t : Text) : Rune :=
  if t.contains ⟨0x27⟩ && !t.contains ⟨0x22⟩ then ⟨0x22⟩ else ⟨0x27⟩

def quoted (t : Text) : Text :=
  let quote := quoteFor t
  quote :: t.flatMap (quotedRune quote) ++ [quote]

end Nomenclator.Text

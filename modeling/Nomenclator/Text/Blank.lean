import Nomenclator.Text.Basic

/-!
# Blanks

The blanks are the white space of every script, with the four information separators. Stripping
removes them at both ends.
-/

namespace Nomenclator

def Rune.isBlank (r : Rune) : Bool :=
  r.within 0x09 0x0D || r.within 0x1C 0x20 || r.code == 0x85 || r.code == 0xA0 ||
  r.code == 0x1680 || r.within 0x2000 0x200A || r.within 0x2028 0x2029 || r.code == 0x202F ||
  r.code == 0x205F || r.code == 0x3000

namespace Text

def stripEnd (t : Text) : Text := dropEndWhile Rune.isBlank t

def strip (t : Text) : Text := trim Rune.isBlank t

/-- Is there no character but blanks? -/
def isBlank (t : Text) : Bool := t.all Rune.isBlank

end Text

end Nomenclator

import Nomenclator.Text.Basic
import Nomenclator.Text.Word

/-!
# Identifiers

The names that a C compiler accepts: an ASCII letter or underscore, then letters, digits and
underscores. Every identifier consists of word characters.
-/

namespace Nomenclator

def Rune.opensIdentifier (r : Rune) : Bool := r.isAsciiLetter || r.code == 0x5F

def isIdentifier : Text → Bool
  | [] => false
  | r :: rest => r.opensIdentifier && rest.all Rune.isAsciiWord

theorem Rune.isAsciiWord_of_opensIdentifier {r : Rune} (h : r.opensIdentifier = true) :
    r.isAsciiWord = true := by
  simp only [opensIdentifier, isAsciiWord, Bool.or_eq_true] at *
  rcases h with h | h
  · exact Or.inl (Or.inl h)
  · exact Or.inr h

end Nomenclator

import Nomenclator.Text.Blank

/-!
# Name patterns

The names to look for, in the order in which they are tried, and the pattern that spells them out as
one regular expression of whole words.
-/

namespace Nomenclator

/-- Longer names come first, so that a name is not cut short by another one it starts with. Names of
one length are in dictionary order. -/
def trySooner (a b : Text) : Bool :=
  if a.length = b.length then Text.le a b else b.length < a.length

/-- The names worth looking for, each once, in the order of trying. -/
def candidateNames (names : List Text) : List Text :=
  (names.filter fun name => !name.isEmpty).eraseDups.mergeSort trySooner

/-- The characters with a meaning in a regular expression. -/
def isSpecial (r : Rune) : Bool :=
  (Text.ofString "()[]\x7b\x7d?*+-|^$\\.&~# ").contains r || r.within 0x09 0x0D

/-- The name as a regular expression that matches nothing else. -/
def escapeName (name : Text) : Text :=
  name.flatMap fun r => if isSpecial r then [⟨0x5C⟩, r] else [r]

/-- The regular expression for whole words among `names`; none when there is no name. -/
def namePattern? (names : List Text) : Option Text :=
  match candidateNames names with
  | [] => none
  | candidates =>
    some (Text.concat
      ["(?<!\\w)(?:", Text.join "|" (candidates.map escapeName), ")(?!\\w)"])

end Nomenclator

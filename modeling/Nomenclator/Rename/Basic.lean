import Nomenclator.Log
import Nomenclator.Rename.Pattern
import Nomenclator.Text.Word
import Nomenclator.Value.Basic

/-!
# Renaming

All names are replaced in one pass over the text as it was, so swapped names swap and nothing is
renamed twice. A name counts only where no word character touches it.
-/

namespace Nomenclator

/-- A piece of the text: a character that stays, or an occurrence of an old name. -/
inductive Piece where
  | kept (r : Rune)
  | name (old : Text)
deriving DecidableEq, Repr

/-- Does `name` stand at the start of `s` with no word character after it? -/
def standsAt (s name : Text) : Bool :=
  !name.isEmpty && name.isPrefixOf s && !((s.drop name.length).head?.any Rune.isWord)

def endsInWord (t : Text) : Bool := t.getLast?.any Rune.isWord

/-- Cuts a text into pieces. `afterWord` tells whether a word character stands before it; `names`
are in the order of trying. -/
def cutNames (names : List Text) (afterWord : Bool) (s : Text) : List Piece :=
  match s with
  | [] => []
  | r :: rest =>
    match if afterWord then none else names.find? (standsAt (r :: rest)) with
    | some name => .name name :: cutNames names (endsInWord name) (rest.drop (name.length - 1))
    | none => .kept r :: cutNames names r.isWord rest
termination_by s.length
decreasing_by all_goals simp only [List.length_drop, List.length_cons]; omega

/-- The text of a piece once `renames` are applied. -/
def Piece.rename (renames : Entries Text) : Piece → Text
  | kept r => [r]
  | name old => (renames.get? old).getD old

structure RenameOutcome where
  text : Text
  /-- How many occurrences got a name different from the old one. -/
  substitutions : Nat
  /-- How often each old name occurred. -/
  perName : Entries Nat
deriving DecidableEq, Repr

namespace RenameOutcome

/-- The names that never occurred. -/
def unmatchedNames (perName : Entries Nat) : List Text :=
  (perName.filter fun entry => entry.2 == 0).map (·.1)

def unmatched (outcome : RenameOutcome) : List Text := unmatchedNames outcome.perName

/-- What there is to say about a renaming; nothing when no name was to be looked for. -/
def log (outcome : RenameOutcome) : Log :=
  if outcome.perName.isEmpty then []
  else
    let missing := outcome.unmatched
    let notFound : Log :=
      if missing.isEmpty then []
      else
        [⟨.debug, .renames,
          Text.concat ["Renames not found in text: ", Text.join ", " missing]⟩]
    notFound ++
      [⟨.debug, .renames,
        Text.concat
          ["Applied ", Text.ofNat outcome.substitutions, " substitution(s) for ",
            Text.ofNat outcome.perName.length, " name(s)"]⟩]

end RenameOutcome

/-- Renames every old name in `text`, each whole occurrence of it at once. -/
def renameAll (text : Text) (renames : Entries Text) : RenameOutcome :=
  let names := renames.keys.filter fun name => !name.isEmpty
  let pieces := cutNames (candidateNames names) false text
  let changes (old : Text) : Bool := (renames.get? old).getD old != old
  { text := pieces.flatMap (Piece.rename renames)
    substitutions := names.foldl (fun n old =>
      n + if changes old then pieces.count (.name old) else 0) 0
    perName := names.map fun old => (old, pieces.count (.name old)) }

end Nomenclator

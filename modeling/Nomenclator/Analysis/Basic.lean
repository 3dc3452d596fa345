import Nomenclator.Rename.Basic
import Nomenclator.Suggestion.Basic

/-!
# Analyses

Everything there is to know about one analyzed function.
-/

namespace Nomenclator

structure Analysis where
  index : Nat
  source : Text
  suggestion : Suggestion
  outcome : RenameOutcome
deriving DecidableEq, Repr

namespace Analysis

/-- Applies a suggestion to the function it was made for. -/
def ofSuggestion (index : Nat) (source : Text) (suggestion : Suggestion) : Analysis :=
  ⟨index, source, suggestion, renameAll source suggestion.renames⟩

/-- The function under its new names. -/
def renamed (a : Analysis) : Text := a.outcome.text

/-- What is said of renames that found nothing to rename. -/
def log (a : Analysis) : Log :=
  let unmatched := a.outcome.unmatched
  a.outcome.log ++
    if unmatched.isEmpty then []
    else
      [⟨.debug, .analysis,
        Text.concat
          ["Function ", Text.ofNat a.index, ": ", Text.ofNat unmatched.length,
            " suggested rename(s) not found in the text: ", Text.join ", " unmatched]⟩]

end Analysis

end Nomenclator

import Nomenclator.Failure.Escape
import Nomenclator.Log
import Nomenclator.Suggestion.Extraction

/-!
# Answers

From the words of a model to a suggestion: find the object, decode it, validate it. Renames that
were set aside are worth a warning.
-/

namespace Nomenclator.Suggestion

def previewLength : Nat := 200

/-- The suggestion in a model's answer. -/
def ofAnswer (answer : Text) : Except Halt Suggestion :=
  match extract answer with
  | .error stop => .error (stop.halt answer (.answer ∘ .notJson))
  | .ok none => .error (.failed (.answer (.noObject (answer.take previewLength))))
  | .ok (some candidate) =>
    match Json.decode candidate with
    | .error stop => .error (stop.halt candidate (.answer ∘ .notJson))
    | .ok value =>
      match ofValue value with
      | .error problems => .error (.failed (.answer (.invalid problems)))
      | .ok suggestion => .ok suggestion

/-- What there is to warn about. -/
def warnings (suggestion : Suggestion) : Log :=
  if suggestion.dropped.isEmpty then []
  else
    let pairs := suggestion.dropped.map fun (old, new) =>
      Text.concat [old.quoted, "->", new.quoted]
    [⟨.warning, .answer,
      Text.concat
        ["Dropped ", Text.ofNat suggestion.dropped.length, " malformed variable rename(s): ",
          Text.join ", " pairs]⟩]

end Nomenclator.Suggestion

import Nomenclator.Text.Basic

/-!
# Model names

A server lists its models with tags. A model that is asked for without a tag means the latest one.
-/

namespace Nomenclator

def latestTag : Text := ":latest"

/-- Is a model among those that a server has? -/
def isModelAvailable (model : Text) (available : List Text) : Bool :=
  let wanted := if model.contains ⟨0x3A⟩ then model else model ++ latestTag
  available.contains model || available.contains wanted

end Nomenclator

import Nomenclator.Proofs.Rename.Tokens
import Nomenclator.Service.Envelope

/-!
# Renames that are kept

Only identifiers are kept as old and new names, whatever a model answers.
-/

namespace Nomenclator

theorem areIdentifiers_nil : AreIdentifiers [] := by
  unfold AreIdentifiers
  simp

theorem areIdentifiers_append {renames more : Entries Text} :
    AreIdentifiers (renames ++ more) ↔ AreIdentifiers renames ∧ AreIdentifiers more :=
  List.forall_mem_append

namespace Renames

theorem add_areIdentifiers {renames : Renames} (h : AreIdentifiers renames.kept)
    (pair : Value × Value) : AreIdentifiers (renames.add pair).kept := by
  unfold add
  split
  · next old new =>
    dsimp only
    split
    · next husable =>
      simp only [Bool.and_eq_true] at husable
      refine areIdentifiers_append.2 ⟨h, ?_⟩
      unfold AreIdentifiers
      simpa using husable.1
    · exact h
  · exact h

theorem foldl_add_areIdentifiers {renames : Renames} (h : AreIdentifiers renames.kept)
    (pairs : List (Value × Value)) : AreIdentifiers (pairs.foldl add renames).kept := by
  induction pairs generalizing renames with
  | nil => exact h
  | cons pair rest ih => exact ih (add_areIdentifiers h pair)

theorem ofValue_areIdentifiers (value : Value) : AreIdentifiers (ofValue value).kept := by
  unfold ofValue
  split
  · exact areIdentifiers_nil
  · exact foldl_add_areIdentifiers areIdentifiers_nil _
  · exact foldl_add_areIdentifiers areIdentifiers_nil _
  · exact areIdentifiers_nil

end Renames

namespace Suggestion

theorem ofValue_renames {value : Value} {suggestion : Suggestion}
    (h : ofValue value = .ok suggestion) :
    ∃ given, suggestion.renames = (Renames.ofValue given).kept := by
  unfold ofValue at h
  split at h
  · unfold ofEntries at h
    dsimp only at h
    split at h
    · injection h with h
      rw [← h]
      exact ⟨_, rfl⟩
    · simp at h
    · simp at h
    · simp at h
  · simp at h

theorem ofAnswer_renames {answer : Text} {suggestion : Suggestion}
    (h : ofAnswer answer = .ok suggestion) :
    ∃ given, suggestion.renames = (Renames.ofValue given).kept := by
  unfold ofAnswer at h
  split at h
  · simp at h
  · simp at h
  · split at h
    · simp at h
    · split at h
      · simp at h
      · next hvalue =>
        injection h with h
        exact h ▸ ofValue_renames hvalue

theorem ofReply_renames {body : Text} {suggestion : Suggestion}
    (h : (ofReply body).1 = .ok suggestion) :
    ∃ given, suggestion.renames = (Renames.ofValue given).kept := by
  unfold ofReply at h
  split at h
  · simp at h
  · split at h
    · simp at h
    · next hanswer =>
      injection h with h
      exact h ▸ ofAnswer_renames hanswer

theorem ofReply_areIdentifiers {body : Text} {suggestion : Suggestion}
    (h : (ofReply body).1 = .ok suggestion) : AreIdentifiers suggestion.renames := by
  obtain ⟨given, hgiven⟩ := ofReply_renames h
  rw [hgiven]
  exact Renames.ofValue_areIdentifiers given

end Suggestion

end Nomenclator

import Nomenclator.Proofs.Rename.Counts

/-!
# Taking a renaming back

A renaming that gives no two names the same new name is taken back by the map from the new names to
the old ones, as long as no word of the text was called by a new name before.
-/

namespace Nomenclator

/-- From the new names to the old ones. -/
def inverseRenames (renames : Entries Text) : Entries Text := renames.map Prod.swap

/-- Each old name has one entry, and no two of them the same new name. -/
structure IsReversible (renames : Entries Text) : Prop where
  identifiers : AreIdentifiers renames
  oldNodup : renames.keys.Nodup
  newNodup : (renames.map Prod.snd).Nodup

variable {renames : Entries Text}

theorem keys_inverseRenames (renames : Entries Text) :
    (inverseRenames renames).keys = renames.map Prod.snd := by
  rw [Entries.keys, inverseRenames, List.map_map]
  rfl

theorem mem_inverseRenames {old new : Text} :
    (new, old) ∈ inverseRenames renames ↔ (old, new) ∈ renames := by
  rw [inverseRenames, List.mem_map]
  constructor
  · rintro ⟨entry, hentry, heq⟩
    obtain rfl : entry = (old, new) := Prod.swap_injective heq
    exact hentry
  · intro h
    exact ⟨(old, new), h, rfl⟩

section

variable (h : IsReversible renames)
include h

theorem IsReversible.inverse : IsReversible (inverseRenames renames) where
  identifiers := by
    rintro ⟨new, old⟩ hentry
    exact (h.identifiers _ (mem_inverseRenames.1 hentry)).symm
  oldNodup := by
    rw [keys_inverseRenames]
    exact h.newNodup
  newNodup := by
    rw [inverseRenames, List.map_map]
    exact h.oldNodup

theorem newName_newName {word : Text}
    (hfree : word ∈ renames.map Prod.snd → word ∈ renames.keys) :
    newName (inverseRenames renames) (newName renames word) = word := by
  by_cases hold : word ∈ renames.keys
  · obtain ⟨⟨old, new⟩, hentry, rfl⟩ := List.mem_map.1 hold
    rw [newName_of_mem h.oldNodup hentry,
      newName_of_mem h.inverse.oldNodup (mem_inverseRenames.2 hentry)]
  · rw [newName_of_not_mem hold, newName_of_not_mem]
    rw [keys_inverseRenames]
    exact fun hnew => hold (hfree hnew)

end

/-- The inverse map gives the text back and substitutes as many words as the map did. -/
theorem renameAll_inverse (text : Text) (renames : Entries Text) (h : IsReversible renames)
    (hfree : ∀ word ∈ words text, word ∈ renames.map Prod.snd → word ∈ renames.keys) :
    (renameAll (renameAll text renames).text (inverseRenames renames)).text = text ∧
      (renameAll (renameAll text renames).text (inverseRenames renames)).substitutions =
        (renameAll text renames).substitutions := by
  have hback : ∀ run ∈ runs text,
      newName (inverseRenames renames) (newName renames run) = run := by
    refine fun run hrun => newName_newName h fun hnew => hfree run ?_ hnew
    have hword := (isWordName_of_mem_keys h.inverse.identifiers
      (by rwa [keys_inverseRenames])).2
    exact List.mem_filter.2 ⟨hrun, List.all_eq_true.2 hword⟩
  refine ⟨?_, ?_⟩
  · have hruns : ((runs text).map (newName renames)).map (newName (inverseRenames renames)) =
        runs text := by
      rw [List.map_map]
      exact (List.map_congr_left hback).trans (List.map_id' _)
    rw [renameAll_text_eq_flatten h.inverse.identifiers, runs_renameAll h.identifiers, hruns,
      flatten_runs]
  · rw [substitutions_eq_countP h.inverse.identifiers h.inverse.oldNodup,
      substitutions_eq_countP h.identifiers h.oldNodup, words_renameAll h.identifiers,
      List.countP_map]
    refine List.countP_congr fun word hword => ?_
    simp only [Function.comp_apply, hback word (List.mem_of_mem_filter hword), bne_iff_ne, ne_comm]

/-- A cycle of three names, one of which the text does not hold. -/
theorem renameAll_inverse_cycle :
    let cycle : Entries Text := [("a", "b"), ("b", "c"), ("c", "a")]
    let renamed := (renameAll "a+b1*b-(b)" cycle).text
    IsReversible cycle ∧
      (∀ word ∈ words "a+b1*b-(b)", word ∈ cycle.map Prod.snd → word ∈ cycle.keys) ∧
      (renameAll renamed (inverseRenames cycle)).text = Text.ofString "a+b1*b-(b)" ∧
      (renameAll renamed (inverseRenames cycle)).substitutions =
        (renameAll "a+b1*b-(b)" cycle).substitutions := by
  intro cycle renamed
  have h : IsReversible cycle := ⟨by decide, by decide, by decide⟩
  have hfree : ∀ word ∈ words "a+b1*b-(b)", word ∈ cycle.map Prod.snd → word ∈ cycle.keys := by
    decide
  exact ⟨h, hfree, renameAll_inverse _ _ h hfree⟩

end Nomenclator

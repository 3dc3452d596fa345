import Mathlib.Data.List.Nodup
import Mathlib.Logic.Basic
import Nomenclator.Value.Basic

/-!
# Looking things up

What is found under a key, after entries are put in, put together, mapped or left out.
-/

namespace Nomenclator.Entries

variable {α : Type} {key : Text}

theorem get?_append (entries more : Entries α) :
    get? key (entries ++ more) = (entries.get? key).or (more.get? key) := by
  rw [get?, get?, get?, List.find?_append, Option.map_or]

theorem get?_mapValues {β : Type} (f : α → β) (entries : Entries α) :
    get? key (entries.map fun entry => (entry.1, f entry.2)) = (entries.get? key).map f := by
  rw [get?, get?, List.find?_map, Option.map_map, Option.map_map]
  rfl

/-- Entries whose keys fail a test are out of the way of a key that passes. -/
theorem get?_filter {p : Text → Bool} (hkey : p key = true) (entries : Entries α) :
    get? key (entries.filter fun entry => p entry.1) = entries.get? key := by
  rw [get?, get?, List.find?_filter]
  congr 2
  funext entry
  by_cases h : entry.1 = key <;> simp [h, hkey]

theorem hasKey_eq_isSome_get? (entries : Entries α) :
    entries.hasKey key = (entries.get? key).isSome := by
  rw [get?, Option.isSome_map, List.isSome_find?]
  rfl

theorem hasKey_eq_false_of_get? {entries : Entries α} (h : entries.get? key = none) :
    entries.hasKey key = false := by
  rw [hasKey_eq_isSome_get?, h, Option.isSome_none]

/-! ## Putting entries in -/

theorem get?_cons (entry : Text × α) (rest : Entries α) :
    get? key (entry :: rest) = if entry.1 = key then some entry.2 else rest.get? key := by
  unfold get?
  by_cases h : entry.1 = key <;> simp [h]

theorem get?_put (name : Text) (value : α) (entries : Entries α) :
    (entries.put name value).get? key = if name = key then some value else entries.get? key := by
  induction entries with
  | nil => exact get?_cons (name, value) []
  | cons entry rest ih =>
    rw [put]
    split
    · next hsame =>
      subst hsame
      rw [get?_cons, get?_cons]
      split <;> rfl
    · next hother =>
      rw [get?_cons, get?_cons, ih]
      split
      · next hkey =>
        subst hkey
        rw [if_neg (Ne.symm hother)]
      · rfl

theorem mem_keys_put {name : Text} {value : α} {entries : Entries α} :
    key ∈ (entries.put name value).keys ↔ key = name ∨ key ∈ entries.keys := by
  rw [← not_iff_not, not_or, ← get?_eq_none_iff, ← get?_eq_none_iff, get?_put]
  by_cases h : name = key
  · simp [h]
  · simp [h, Ne.symm h]

theorem nodup_keys_put {entries : Entries α} (h : entries.keys.Nodup) (name : Text) (value : α) :
    (entries.put name value).keys.Nodup := by
  induction entries with
  | nil => exact List.nodup_singleton name
  | cons entry rest ih =>
    obtain ⟨hfresh, hrest⟩ := List.nodup_cons.1 h
    rw [put]
    split
    · next hsame => exact hsame ▸ h
    · next hother =>
      refine List.nodup_cons.2 ⟨fun hmem => ?_, ih hrest⟩
      rcases mem_keys_put.1 hmem with hsame | hmem
      · exact hother hsame
      · exact hfresh hmem

end Nomenclator.Entries

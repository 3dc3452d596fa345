import Nomenclator.Proofs.Rename.Tokens
import Nomenclator.Proofs.Value.Entries

/-!
# Renaming twice

Two renamings in a row are one, under the map that sends an old name through both. So renaming a
text again changes nothing as long as no new name is an old one.
-/

namespace Nomenclator

/-! ## Composition -/

/-- What a name is called after a renaming. -/
def newName (renames : Entries Text) (name : Text) : Text := (renames.get? name).getD name

/-- The map of two renamings in a row: an old name of the first becomes what the second makes of its
new name, and what is an old name of the second alone becomes its new name there. -/
def composeRenames (first second : Entries Text) : Entries Text :=
  first.map (fun entry => (entry.1, newName second entry.2)) ++
    second.filter fun entry => !first.hasKey entry.1

theorem get?_composeRenames (first second : Entries Text) (key : Text) :
    (composeRenames first second).get? key =
      match first.get? key with
      | some new => some (newName second new)
      | none => second.get? key := by
  rw [composeRenames, Entries.get?_append, Entries.get?_mapValues]
  cases h : first.get? key with
  | some new => rfl
  | none =>
    have hkey := Entries.hasKey_eq_false_of_get? h
    rw [Option.map_none, Option.none_or, Entries.get?_filter (p := fun key => !first.hasKey key)]
    simp [hkey]

section

variable {first second : Entries Text} (hfirst : AreIdentifiers first)
  (hsecond : AreIdentifiers second)

include hsecond in
theorem isIdentifier_newName {name : Text} (hname : isIdentifier name = true) :
    isIdentifier (newName second name) = true := by
  unfold newName
  cases hget : second.get? name with
  | none => exact hname
  | some new => exact (hsecond _ (Entries.mem_of_get? hget)).2

include hfirst hsecond in
theorem areIdentifiers_composeRenames : AreIdentifiers (composeRenames first second) := by
  intro entry hentry
  rcases List.mem_append.1 hentry with hentry | hentry
  · obtain ⟨old, hold, rfl⟩ := List.mem_map.1 hentry
    exact ⟨(hfirst old hold).1, isIdentifier_newName hsecond (hfirst old hold).2⟩
  · exact hsecond entry (List.mem_of_mem_filter hentry)

include hfirst in
theorem renameRun_renameRun (run : Text) :
    renameRun second (renameRun first run) = renameRun (composeRenames first second) run := by
  by_cases hword : run.all Rune.isWord = true
  · rw [renameRun.eq_def first, renameRun.eq_def (composeRenames first second), if_pos hword,
      if_pos hword, get?_composeRenames]
    cases hget : first.get? run with
    | none => exact if_pos hword
    | some new =>
      have hnew := isWordName_of_isIdentifier (hfirst _ (Entries.mem_of_get? hget)).2
      exact if_pos (List.all_eq_true.2 hnew.2)
  · simp only [renameRun, if_neg hword]

end

theorem renameRuns_congr {renames renames' : Entries Text}
    (h : ∀ key, renames.get? key = renames'.get? key) (t : Text) :
    renameRuns renames t = renameRuns renames' t := by
  unfold renameRuns renameRun
  simp only [h]

theorem get?_composeRenames_self {renames : Entries Text}
    (h : ∀ entry ∈ renames, entry.2 ∉ renames.keys) (key : Text) :
    (composeRenames renames renames).get? key = renames.get? key := by
  rw [get?_composeRenames]
  cases hget : renames.get? key with
  | none => rfl
  | some new =>
    have hnone := Entries.get?_eq_none_iff.2 (h _ (Entries.mem_of_get? hget))
    simp only [newName, hnone, Option.getD_none]

/-- Two renamings are one, by the map that sends the old names of the first through both and leaves
other names to the second. If no new name is an old one, a second renaming by the same map changes
nothing. -/
theorem renameAll_renameAll (text : Text) (first second : Entries Text)
    (hfirst : AreIdentifiers first) (hsecond : AreIdentifiers second) :
    (renameAll (renameAll text first).text second).text =
        (renameAll text (composeRenames first second)).text ∧
      (∀ key, (composeRenames first second).get? key =
        match first.get? key with
        | some new => some (newName second new)
        | none => second.get? key) ∧
      ((∀ entry ∈ first, entry.2 ∉ first.keys) →
        (renameAll (renameAll text first).text first).text = (renameAll text first).text) := by
  have twice {second : Entries Text} (hsecond : AreIdentifiers second) :
      (renameAll (renameAll text first).text second).text =
        renameRuns (composeRenames first second) text := by
    rw [renameAll_text_eq_renameRuns _ hsecond, renameAll_text_eq_renameRuns _ hfirst, renameRuns,
      (runs_renameRuns hfirst text).1, List.flatMap_map, renameRuns]
    exact List.flatMap_congr fun run _ => renameRun_renameRun hfirst run
  refine ⟨?_, get?_composeRenames first second, fun hnew => ?_⟩
  · rw [twice hsecond,
      renameAll_text_eq_renameRuns _ (areIdentifiers_composeRenames hfirst hsecond)]
  · rw [twice hfirst, renameRuns_congr (get?_composeRenames_self hnew),
      renameAll_text_eq_renameRuns _ hfirst]

/-- A swap followed by a map that takes one of the swapped names on, and a map none of
whose new names is an old one. -/
theorem renameAll_renameAll_swap :
    let swap : Entries Text := [("a", "b"), ("b", "a")]
    let more : Entries Text := [("b", "c"), ("d", "a")]
    (AreIdentifiers swap ∧ AreIdentifiers more ∧
      (renameAll (renameAll "a+b*d" swap).text more).text =
        (renameAll "a+b*d" (composeRenames swap more)).text) ∧
    (∀ entry ∈ more, entry.2 ∉ more.keys) ∧
      (renameAll (renameAll "a+b*d" more).text more).text = (renameAll "a+b*d" more).text := by
  intro swap more
  have hswap : AreIdentifiers swap := by decide
  have hmore : AreIdentifiers more := by decide
  have hnew : ∀ entry ∈ more, entry.2 ∉ more.keys := by decide
  exact ⟨⟨hswap, hmore, (renameAll_renameAll "a+b*d" swap more hswap hmore).1⟩, hnew,
    (renameAll_renameAll "a+b*d" more more hmore hmore).2.2 hnew⟩

end Nomenclator

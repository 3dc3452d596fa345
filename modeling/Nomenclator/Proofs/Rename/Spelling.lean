import Nomenclator.Proofs.Rename.Candidates
import Nomenclator.Proofs.Text.Basic

/-!
# Names read back from a pattern

A pattern tells which names it was made for. Every bar and every backslash of a name is escaped, so
the bars that are left stand between names, and whatever follows a backslash belongs to a name.
-/

namespace Nomenclator

/-- The names that alternatives spell. A backslash takes the next character into a name, whatever it
is; a bar ends a name. -/
def spelledNames : Text → List Text
  | [] => [[]]
  | ⟨0x5C⟩ :: r :: rest => (spelledNames rest).modifyHead (r :: ·)
  | ⟨0x7C⟩ :: rest => [] :: spelledNames rest
  | r :: rest => (spelledNames rest).modifyHead (r :: ·)

/-! ## One character -/

theorem spelledNames_bar (rest : Text) :
    spelledNames (⟨0x7C⟩ :: rest) = [] :: spelledNames rest := by
  rw [spelledNames]

theorem spelledNames_plain {r : Rune} (h : isSpecial r = false) (rest : Text) :
    spelledNames (r :: rest) = (spelledNames rest).modifyHead (r :: ·) := by
  have hbackslash : isSpecial ⟨0x5C⟩ = true := by decide
  have hbar : isSpecial ⟨0x7C⟩ = true := by decide
  rw [spelledNames]
  · rintro s more rfl
    simp [hbackslash] at h
  · rintro rfl
    simp [hbar] at h

theorem spelledNames_escaped (r : Rune) (rest : Text) :
    spelledNames ((if isSpecial r then [⟨0x5C⟩, r] else [r]) ++ rest) =
      (spelledNames rest).modifyHead (r :: ·) := by
  split
  · rw [List.cons_append, List.singleton_append, spelledNames]
  · next h => exact spelledNames_plain (by simpa using h) rest

/-! ## Names -/

theorem spelledNames_escapeName (name rest : Text) :
    spelledNames (escapeName name ++ rest) = (spelledNames rest).modifyHead (name ++ ·) := by
  induction name with
  | nil =>
    rw [escapeName, List.flatMap_nil, List.nil_append]
    cases spelledNames rest <;> rfl
  | cons r name ih =>
    rw [escapeName, List.flatMap_cons, List.append_assoc, spelledNames_escaped, ← escapeName, ih,
      List.modifyHead_modifyHead]
    rfl

theorem spelledNames_join {names : List Text} (h : names ≠ []) :
    spelledNames (Text.join "|" (names.map escapeName)) = names := by
  induction names with
  | nil => exact absurd rfl h
  | cons name rest ih =>
    by_cases hrest : rest = []
    · subst hrest
      have hlast := spelledNames_escapeName name []
      rw [List.append_nil] at hlast
      rw [List.map_singleton, Text.join, hlast, spelledNames, List.modifyHead_cons, List.append_nil]
    · have hmore : rest.map escapeName ≠ [] := by simpa using hrest
      rw [List.map_cons, Text.join_cons _ _ hmore, List.append_assoc, spelledNames_escapeName]
      have hbar : ("|" : Text) ++ Text.join "|" (rest.map escapeName) =
          ⟨0x7C⟩ :: Text.join "|" (rest.map escapeName) := rfl
      rw [hbar, spelledNames_bar, ih hrest, List.modifyHead_cons, List.append_nil]

/-- A bar in a name does not end it. -/
example : spelledNames (Text.join "|" (["a|b", "c\\"].map escapeName)) = ["a|b", "c\\"] := by decide

/-! ## Patterns -/

/-- The pattern for whole words among some names. -/
def wordPattern (candidates : List Text) : Text :=
  Text.concat ["(?<!\\w)(?:", Text.join "|" (candidates.map escapeName), ")(?!\\w)"]

theorem namePattern?_eq_none_iff {names : List Text} :
    namePattern? names = none ↔ candidateNames names = [] := by
  unfold namePattern?
  cases candidateNames names <;> simp

theorem namePattern?_of_candidates {names : List Text} (h : candidateNames names ≠ []) :
    namePattern? names = some (wordPattern (candidateNames names)) := by
  unfold namePattern?
  split
  · next hnone => exact absurd hnone h
  · rfl

/-- What stands before the names and after them is the same in all patterns. -/
theorem wordPattern_inj {candidates candidates' : List Text} (h : candidates ≠ [])
    (h' : candidates' ≠ []) (heq : wordPattern candidates = wordPattern candidates') :
    candidates = candidates' := by
  simp only [wordPattern, Text.concat, List.flatten_cons, List.append_cancel_left_eq,
    List.append_cancel_right_eq] at heq
  rw [← spelledNames_join h, heq, spelledNames_join h']

theorem candidateNames_of_namePattern? {names names' : List Text}
    (h : namePattern? names = namePattern? names') :
    candidateNames names = candidateNames names' := by
  by_cases hsome : candidateNames names = []
  · rw [hsome, eq_comm, ← namePattern?_eq_none_iff, ← h, namePattern?_eq_none_iff, hsome]
  · have hsome' : candidateNames names' ≠ [] := by
      rwa [ne_eq, ← namePattern?_eq_none_iff, ← h, namePattern?_eq_none_iff]
    rw [namePattern?_of_candidates hsome, namePattern?_of_candidates hsome',
      Option.some_inj] at h
    exact wordPattern_inj hsome hsome' h

/-- Two collections of names have the same pattern, or none, just when the same names are worth
looking for in both. -/
theorem namePattern?_eq_iff (names names' : List Text) :
    namePattern? names = namePattern? names' ↔
      ∀ name, name ≠ [] → (name ∈ names ↔ name ∈ names') := by
  constructor
  · intro h name hname
    have hsame := candidateNames_of_namePattern? h
    calc name ∈ names
        ↔ name ∈ candidateNames names := by rw [mem_candidateNames, and_iff_left hname]
      _ ↔ name ∈ names' := by rw [hsame, mem_candidateNames, and_iff_left hname]
  · intro h
    unfold namePattern?
    rw [candidateNames_congr h]

end Nomenclator

import Mathlib.Data.List.Lex
import Nomenclator.Rename.Basic

/-!
# The order of trying

Dictionary order is a total order on texts, and so is the order in which names are tried. Which
names are tried, and when, depends on nothing but which names there are.
-/

namespace Nomenclator

/-! ## Dictionary order -/

namespace Text

variable {s t u : Text}

/-- Dictionary order is the order of the lists of codes. -/
theorem le_iff_codes : le s t = true ↔ s.map Rune.code ≤ t.map Rune.code := by
  induction s generalizing t with
  | nil => simp [le, ← not_lt]
  | cons a s ih =>
    cases t with
    | nil => simp [le]
    | cons b t =>
      rw [List.map_cons, List.map_cons, ← not_lt, List.cons_lt_cons_iff, not_or, not_and, not_lt,
        not_lt, ← ih, le]
      split_ifs with hlt hgt
      · simp only [true_iff]
        omega
      · simp only [false_iff]
        omega
      · have hcode : a.code = b.code := by omega
        simp [hcode]

theorem le_trans (hst : le s t = true) (htu : le t u = true) : le s u = true := by
  rw [le_iff_codes] at *
  exact hst.trans htu

theorem le_total (s t : Text) : le s t = true ∨ le t s = true := by
  rw [le_iff_codes, le_iff_codes]
  exact LinearOrder.le_total _ _

theorem le_antisymm (hst : le s t = true) (hts : le t s = true) : s = t := by
  rw [le_iff_codes] at *
  have hcode : Function.Injective Rune.code := fun a b hab => congrArg Rune.mk hab
  exact hcode.list_map (hst.antisymm hts)

end Text

/-! ## Longer names first -/

variable {a b c : Text}

theorem trySooner_iff :
    trySooner a b = true ↔ b.length < a.length ∨ a.length = b.length ∧ Text.le a b = true := by
  unfold trySooner
  split
  · next h => simp [h]
  · next h => simp [h]

theorem length_le_of_trySooner (h : trySooner a b = true) : b.length ≤ a.length := by
  rcases trySooner_iff.1 h with h | h <;> omega

theorem trySooner_trans (hab : trySooner a b = true) (hbc : trySooner b c = true) :
    trySooner a c = true := by
  rw [trySooner_iff] at *
  rcases hab with hab | ⟨hab, hle⟩ <;> rcases hbc with hbc | ⟨hbc, hle'⟩
  · exact .inl (by omega)
  · exact .inl (by omega)
  · exact .inl (by omega)
  · exact .inr ⟨hab.trans hbc, Text.le_trans hle hle'⟩

theorem trySooner_total (a b : Text) : trySooner a b = true ∨ trySooner b a = true := by
  rw [trySooner_iff, trySooner_iff]
  rcases Nat.lt_trichotomy a.length b.length with hlt | heq | hlt
  · exact .inr (.inl hlt)
  · exact (Text.le_total a b).imp (fun h => .inr ⟨heq, h⟩) fun h => .inr ⟨heq.symm, h⟩
  · exact .inl (.inl hlt)

theorem trySooner_antisymm (hab : trySooner a b = true) (hba : trySooner b a = true) : a = b := by
  have hlength := length_le_of_trySooner hab
  have hlength' := length_le_of_trySooner hba
  rcases trySooner_iff.1 hab with h | ⟨-, hle⟩
  · omega
  · rcases trySooner_iff.1 hba with h | ⟨-, hle'⟩
    · omega
    · exact Text.le_antisymm hle hle'

/-! ## The names that are tried -/

variable {names names' : List Text}

theorem mem_candidateNames {name : Text} :
    name ∈ candidateNames names ↔ name ∈ names ∧ name ≠ [] := by
  simp [candidateNames, List.mem_mergeSort, List.mem_eraseDups, and_comm]

theorem pairwise_candidateNames (names : List Text) :
    (candidateNames names).Pairwise fun a b => trySooner a b = true :=
  List.pairwise_mergeSort (fun a _ c hab hbc => trySooner_trans (a := a) (c := c) hab hbc)
    (fun a b => Bool.or_eq_true_iff.2 (trySooner_total a b)) _

theorem nodup_eraseDups (names : List Text) : names.eraseDups.Nodup := by
  match names with
  | [] => simp
  | name :: rest =>
    rw [List.eraseDups_cons, List.nodup_cons, List.mem_eraseDups, List.mem_filter]
    exact ⟨by simp, nodup_eraseDups _⟩
termination_by names.length
decreasing_by
  have := List.length_filter_le (fun other => !other == name) rest
  simp only [List.length_cons]
  omega

theorem nodup_candidateNames (names : List Text) : (candidateNames names).Nodup :=
  (List.mergeSort_perm _ _).nodup_iff.2 (nodup_eraseDups _)

theorem candidateNames_congr (h : ∀ name, name ≠ [] → (name ∈ names ↔ name ∈ names')) :
    candidateNames names = candidateNames names' := by
  refine List.Perm.eq_of_pairwise (fun a b _ _ => trySooner_antisymm)
    (pairwise_candidateNames names) (pairwise_candidateNames names') ?_
  refine (List.perm_ext_iff_of_nodup (nodup_candidateNames _) (nodup_candidateNames _)).2
    fun name => ?_
  rw [mem_candidateNames, mem_candidateNames]
  exact and_congr_left (h name)

/-! ## The old names of a renaming -/

/-- The old names in the order of trying. -/
def oldNames (renames : Entries Text) : List Text :=
  candidateNames (renames.keys.filter fun name => !name.isEmpty)

variable {renames : Entries Text}

theorem mem_oldNames {name : Text} :
    name ∈ oldNames renames ↔ name ∈ renames.keys ∧ name ≠ [] := by
  simp only [oldNames, mem_candidateNames, List.mem_filter, Bool.not_eq_true',
    List.isEmpty_eq_false_iff, and_assoc, and_self]

theorem pairwise_oldNames (renames : Entries Text) :
    (oldNames renames).Pairwise fun a b => trySooner a b = true := pairwise_candidateNames _

theorem cutNames_nil (names : List Text) (afterWord : Bool) : cutNames names afterWord [] = [] := by
  rw [cutNames]

theorem flatMap_rename_cutNames_nil (renames : Entries Text) (afterWord : Bool) (t : Text) :
    (cutNames [] afterWord t).flatMap (Piece.rename renames) = t := by
  induction t generalizing afterWord with
  | nil => rw [cutNames_nil]; rfl
  | cons r rest ih =>
    have hstep : cutNames [] afterWord (r :: rest) = .kept r :: cutNames [] r.isWord rest := by
      rw [cutNames]
      cases afterWord <;> rfl
    rw [hstep, List.flatMap_cons, ih]
    rfl

theorem renameAll_nil (text : Text) : renameAll text [] = ⟨text, 0, []⟩ := by
  have hnames : candidateNames [] = [] := by simp [candidateNames]
  unfold renameAll
  simp only [Entries.keys, List.map_nil, List.filter_nil, List.foldl_nil, hnames,
    flatMap_rename_cutNames_nil]

theorem renameAll_text (text : Text) (renames : Entries Text) :
    (renameAll text renames).text =
      (cutNames (oldNames renames) false text).flatMap (Piece.rename renames) := rfl

end Nomenclator

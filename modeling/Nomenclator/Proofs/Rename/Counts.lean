import Mathlib.Algebra.BigOperators.Ring.Finset
import Nomenclator.Proofs.Rename.Composition
import Nomenclator.Proofs.Rename.Longest

/-!
# How often names occur

With identifiers for names, what a renaming counts can be read off the words of the text: each name
as often as it is one of them, and a substitution for each word that gets another name.
-/

namespace Nomenclator

/-! ## Words -/

/-- The maximal runs of word characters of a text, in order. -/
def words (t : Text) : List Text := (runs t).filter fun run => run.all Rune.isWord

theorem flatten_runs (t : Text) : (runs t).flatten = t := List.flatten_splitBy _ _

theorem count_words {name : Text} (h : IsWordName name) (t : Text) :
    (words t).count name = (runs t).count name :=
  List.count_filter (List.all_eq_true.2 h.2)

variable {renames : Entries Text}

theorem newName_of_not_mem {name : Text} (h : name ∉ renames.keys) :
    newName renames name = name := by
  rw [newName, Entries.get?_eq_none_iff.2 h, Option.getD_none]

theorem newName_of_mem (hnodup : renames.keys.Nodup) {old new : Text}
    (h : (old, new) ∈ renames) : newName renames old = new := by
  rw [newName, (get?_eq_some_iff hnodup).2 h, Option.getD_some]

section

variable (h : AreIdentifiers renames)
include h

theorem renameRun_eq_newName (run : Text) : renameRun renames run = newName renames run := by
  rw [renameRun]
  split
  · rfl
  · next hword =>
    refine (newName_of_not_mem fun hmem => hword ?_).symm
    exact List.all_eq_true.2 (isWordName_of_mem_keys h hmem).2

theorem all_isWord_newName (run : Text) :
    (newName renames run).all Rune.isWord = run.all Rune.isWord := by
  by_cases hmem : run ∈ renames.keys
  · obtain ⟨new, hnew⟩ := Option.ne_none_iff_exists'.1 fun hnone =>
      Entries.get?_eq_none_iff.1 hnone hmem
    have hword := (isWordName_of_isIdentifier (h _ (Entries.mem_of_get? hnew)).2).2
    rw [newName, hnew, Option.getD_some, List.all_eq_true.2 hword,
      List.all_eq_true.2 (isWordName_of_mem_keys h hmem).2]
  · rw [newName_of_not_mem hmem]

theorem runs_renameAll (t : Text) :
    runs (renameAll t renames).text = (runs t).map (newName renames) := by
  rw [renameAll_text_eq_renameRuns t h, (runs_renameRuns h t).1]
  exact List.map_congr_left fun run _ => renameRun_eq_newName h run

theorem renameAll_text_eq_flatten (t : Text) :
    (renameAll t renames).text = ((runs t).map (newName renames)).flatten := by
  rw [← runs_renameAll h, flatten_runs]

theorem words_renameAll (t : Text) :
    words (renameAll t renames).text = (words t).map (newName renames) := by
  rw [words, runs_renameAll h, List.filter_map, words]
  congr 2
  funext run
  exact all_isWord_newName h run

/-- What holds of the runs that have a new name holds of the words that have one. -/
theorem forall_runs_newName_iff (t : Text) :
    (∀ run ∈ runs t, newName renames run = run) ↔
      ∀ word ∈ words t, newName renames word = word := by
  refine ⟨fun hall word hword => hall word (List.mem_of_mem_filter hword), fun hall run hrun => ?_⟩
  by_cases hmem : run ∈ renames.keys
  · have hword := List.all_eq_true.2 (isWordName_of_mem_keys h hmem).2
    exact hall run (List.mem_filter.2 ⟨hrun, hword⟩)
  · exact newName_of_not_mem hmem

theorem renameAll_text_eq_iff (t : Text) :
    (renameAll t renames).text = t ↔ ∀ word ∈ words t, newName renames word = word := by
  rw [← forall_runs_newName_iff h]
  constructor
  · intro hsame
    have hmap := runs_renameAll h t
    rw [hsame] at hmap
    exact List.map_inj_left.1 (hmap.symm.trans (List.map_id _).symm)
  · intro hall
    rw [renameAll_text_eq_flatten h, List.map_congr_left hall, List.map_id', flatten_runs]

end

/-! ## Occurrences -/

theorem count_cutRun {names : List Text} {name : Text} (hmem : name ∈ names) (run : Text) :
    (cutRun names run).count (.name name) = if run = name then 1 else 0 := by
  unfold cutRun
  split
  · simp [List.count_singleton]
  · next hrun =>
    rw [if_neg (by rintro rfl; exact hrun hmem), List.count_eq_zero]
    simp

theorem count_flatMap_cutRun {names : List Text} {name : Text} (hmem : name ∈ names)
    (runs : List Text) : (runs.flatMap (cutRun names)).count (.name name) = runs.count name := by
  induction runs with
  | nil => rfl
  | cons run rest ih =>
    rw [List.flatMap_cons, List.count_append, ih, count_cutRun hmem, List.count_cons,
      Nat.add_comm]
    simp

theorem foldl_add_eq_sum (f : Text → Nat) (names : List Text) :
    names.foldl (fun n name => n + f name) 0 = (names.map f).sum := by
  rw [List.sum_eq_foldl, List.foldl_map]

section

variable (h : AreIdentifiers renames)
include h

theorem filter_keys : (renames.keys.filter fun name => !name.isEmpty) = renames.keys :=
  List.filter_eq_self.2 fun name hname => by simpa using (isWordName_of_mem_keys h hname).1

theorem count_cutNames (t : Text) {name : Text} (hname : name ∈ renames.keys) :
    (cutNames (candidateNames renames.keys) false t).count (.name name) =
      (words t).count name := by
  have hword : ∀ n ∈ candidateNames renames.keys, IsWordName n := fun n hn =>
    isWordName_of_mem_keys h (mem_candidateNames.1 hn).1
  have hne := (isWordName_of_mem_keys h hname).1
  rw [cutNames_eq_flatMap_runs hword, count_flatMap_cutRun (mem_candidateNames.2 ⟨hname, hne⟩),
    count_words (isWordName_of_mem_keys h hname)]

/-- Every old name is found as often as it is a word. -/
theorem perName_renameAll (t : Text) :
    (renameAll t renames).perName = renames.keys.map fun old => (old, (words t).count old) := by
  unfold renameAll
  simp only [filter_keys h]
  exact List.map_congr_left fun name hname => by rw [count_cutNames h t hname]

theorem substitutions_renameAll (t : Text) :
    (renameAll t renames).substitutions =
      (renames.keys.map fun old =>
        if newName renames old = old then 0 else (words t).count old).sum := by
  unfold renameAll
  simp only [filter_keys h]
  rw [foldl_add_eq_sum]
  congr 1
  refine List.map_congr_left fun name hname => ?_
  rw [count_cutNames h t hname]
  unfold newName
  split <;> simp_all

end

/-! ## Sums -/

/-- A sum over texts to which only the old names contribute is a sum over the old names. -/
theorem sum_map_eq_sum_keys {M : Type} [AddCommMonoid M] {keys : List Text} (hnodup : keys.Nodup)
    {f : Text → M} (hf : ∀ t, t ∉ keys → f t = 0) (ts : List Text) :
    (ts.map f).sum = (keys.map fun key => ts.count key • f key).sum := by
  rw [Finset.sum_list_map_count, ← List.sum_toFinset _ hnodup]
  refine Finset.sum_congr_of_eq_on_inter ?_ ?_ fun key _ _ => ?_
  · intro t _ ht
    rw [hf t (by simpa using ht), nsmul_zero]
  · intro key _ hkey
    rw [List.count_eq_zero.2 (by simpa using hkey), zero_nsmul]
  · congr 2
    exact lawful_beq_subsingleton _ _

theorem countP_eq_sum (p : Text → Bool) (ts : List Text) :
    ts.countP p = (ts.map fun t => if p t then 1 else 0).sum := by
  induction ts with
  | nil => rfl
  | cons t rest ih => rw [List.countP_cons, ih, List.map_cons, List.sum_cons, Nat.add_comm]

section

variable (h : AreIdentifiers renames) (hnodup : renames.keys.Nodup)
include h hnodup

theorem substitutions_eq_countP (t : Text) :
    (renameAll t renames).substitutions =
      (words t).countP fun word => newName renames word != word := by
  rw [substitutions_renameAll h, countP_eq_sum]
  refine Eq.trans ?_ (sum_map_eq_sum_keys hnodup (fun word hword => ?_) (words t)).symm
  · congr 1
    refine List.map_congr_left fun name _ => ?_
    by_cases hsame : newName renames name = name <;> simp [hsame]
  · simp [newName_of_not_mem hword]

theorem substitutions_eq_zero_iff (t : Text) :
    (renameAll t renames).substitutions = 0 ↔ (renameAll t renames).text = t := by
  rw [substitutions_eq_countP h hnodup, renameAll_text_eq_iff h, List.countP_eq_zero]
  simp

theorem length_renameAll (t : Text) :
    ((renameAll t renames).text.length : Int) =
      t.length + (renames.keys.map fun old =>
        ((words t).count old : Int) * ((newName renames old).length - old.length)).sum := by
  let growth (run : Text) : Int := (newName renames run).length - run.length
  have hlength (ts : List Text) :
      (ts.flatten.length : Int) = (ts.map fun t => (t.length : Int)).sum := by
    rw [List.length_flatten, Nat.cast_list_sum, List.map_map]
    rfl
  have hgrowth : ((runs t).map growth).sum =
      (renames.keys.map fun old => (runs t).count old • growth old).sum :=
    sum_map_eq_sum_keys hnodup (fun run hrun => by simp [growth, newName_of_not_mem hrun]) (runs t)
  calc ((renameAll t renames).text.length : Int)
      = ((runs t).map fun run => ((newName renames run).length : Int)).sum := by
        rw [renameAll_text_eq_flatten h, hlength, List.map_map]
        rfl
    _ = ((runs t).map fun run => (run.length : Int) + growth run).sum := by simp [growth]
    _ = t.length + ((runs t).map growth).sum := by
        rw [List.sum_map_add, ← hlength, flatten_runs]
    _ = _ := by
        rw [hgrowth]
        congr 2
        refine List.map_congr_left fun old hold => ?_
        rw [count_words (isWordName_of_mem_keys h hold), nsmul_eq_mul]

end

end Nomenclator

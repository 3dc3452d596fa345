import Nomenclator.Proofs.Rename.Candidates
import Nomenclator.Proofs.Rename.Runs
import Nomenclator.Identifier

/-!
# Renaming token by token

With identifiers for names, renaming is a map over the runs of a text: a run that is an old name
becomes its new name, and all else stays as it is.
-/

namespace Nomenclator

/-! ## Names -/

/-- A name that consists of word characters. -/
def IsWordName (name : Text) : Prop := Uniform true name

theorem isWord_of_isAsciiWord {r : Rune} (h : r.isAsciiWord = true) : r.isWord = true := by
  have hlt : r.code < 0x80 := by
    simp only [Rune.isAsciiWord, Rune.isAsciiLetter, Rune.isAsciiUpper, Rune.isAsciiLower,
      Rune.isAsciiDigit, Rune.within, Bool.or_eq_true, Bool.and_eq_true, decide_eq_true_eq,
      beq_iff_eq] at h
    omega
  rw [Rune.isWord, if_pos hlt, h]

theorem isWordName_of_isIdentifier {name : Text} (h : isIdentifier name = true) :
    IsWordName name := by
  cases name with
  | nil => simp [isIdentifier] at h
  | cons r rest =>
    simp only [isIdentifier, Bool.and_eq_true, List.all_eq_true] at h
    obtain ⟨hr, hrest⟩ := h
    refine ⟨by simp, ?_⟩
    intro x hx
    rcases List.mem_cons.mp hx with rfl | hx
    · exact isWord_of_isAsciiWord (Rune.isAsciiWord_of_opensIdentifier hr)
    · exact isWord_of_isAsciiWord (hrest x hx)

/-! ## The scan -/

/-- The piece that a run is cut into if it is a name, else its characters. -/
def cutRun (names : List Text) (run : Text) : List Piece :=
  if run ∈ names then [.name run] else run.map .kept

theorem cutRun_of_not_mem {names : List Text} {run : Text} (h : run ∉ names) :
    cutRun names run = run.map .kept := if_neg h

theorem standsAt_append_iff {name w t : Text} (hn : IsWordName name) (hw : ∀ r ∈ w, r.isWord = true)
    (ht : Ends true t) : standsAt (w ++ t) name = true ↔ name = w := by
  constructor
  · intro h
    simp only [standsAt, Bool.and_eq_true, List.isPrefixOf_iff_prefix, Bool.not_eq_true'] at h
    obtain ⟨⟨-, hpre⟩, hend⟩ := h
    rcases List.prefix_or_prefix_of_prefix hpre (List.prefix_append w t) with ⟨s, hs⟩ | ⟨s, hs⟩
    · -- a name that ends inside the run has a word character after it
      cases s with
      | nil => simpa using hs
      | cons r rest =>
        have hr : r.isWord = true := hw r (by rw [← hs]; simp)
        rw [← hs, List.append_assoc, List.drop_left] at hend
        simp [hr] at hend
    · -- a name that goes on behind the run would hold what is no word character
      cases s with
      | nil => simpa using hs.symm
      | cons r rest =>
        have hr : r.isWord = true := hn.2 r (by rw [← hs]; simp)
        obtain ⟨u, hu⟩ := hpre
        rw [← hs, List.append_assoc, List.append_cancel_left_eq] at hu
        exact absurd hr (ht r (by rw [← hu]; rfl))
  · rintro rfl
    have hend : t.head?.any Rune.isWord = false := by
      cases t with
      | nil => rfl
      | cons r rest => simpa using ht r rfl
    simp [standsAt, hn.1, List.isPrefixOf_iff_prefix, hend]

theorem find?_standsAt {names : List Text} {w t : Text} (hn : ∀ n ∈ names, IsWordName n)
    (hw : ∀ r ∈ w, r.isWord = true) (ht : Ends true t) :
    names.find? (standsAt (w ++ t)) = if w ∈ names then some w else none := by
  split
  · next hmem =>
    cases h : names.find? (standsAt (w ++ t)) with
    | none =>
      have hno := List.find?_eq_none.1 h w hmem
      exact absurd ((standsAt_append_iff (hn w hmem) hw ht).2 rfl) hno
    | some n =>
      have hstands := List.find?_some h
      rw [(standsAt_append_iff (hn n (List.mem_of_find?_eq_some h)) hw ht).1 hstands]
  · next hmem =>
    refine List.find?_eq_none.2 fun n hmem' hstands => ?_
    rw [(standsAt_append_iff (hn n hmem') hw ht).1 hstands] at hmem'
    exact hmem hmem'

theorem cutNames_cons_gap {names : List Text} (hn : ∀ n ∈ names, IsWordName n) {r : Rune}
    (hr : r.isWord = false) (afterWord : Bool) (s : Text) :
    cutNames names afterWord (r :: s) = .kept r :: cutNames names false s := by
  have hnil : ([] : Text) ∉ names := fun h => (hn [] h).1 rfl
  have hfind : names.find? (standsAt (r :: s)) = none := by
    have h := find?_standsAt hn (w := []) (t := r :: s) (by simp) (by simp [Ends, hr])
    rwa [if_neg hnil] at h
  rw [cutNames, hfind, ite_self]
  simp only [hr]

theorem cutNames_gap {names : List Text} (hn : ∀ n ∈ names, IsWordName n) {w : Text}
    (hw : ∀ r ∈ w, r.isWord = false) (t : Text) :
    cutNames names false (w ++ t) = w.map .kept ++ cutNames names false t := by
  induction w with
  | nil => rfl
  | cons r rest ih =>
    rw [List.cons_append, cutNames_cons_gap hn (hw r List.mem_cons_self),
      ih fun x hx => hw x (List.mem_cons_of_mem _ hx), List.map_cons, List.cons_append]

theorem cutNames_restOfRun {names : List Text} {w : Text} (hw : ∀ r ∈ w, r.isWord = true)
    (t : Text) : cutNames names true (w ++ t) = w.map .kept ++ cutNames names true t := by
  induction w with
  | nil => rfl
  | cons r rest ih =>
    rw [List.cons_append, cutNames, if_pos rfl]
    simp only [hw r List.mem_cons_self]
    rw [ih fun x hx => hw x (List.mem_cons_of_mem _ hx), List.map_cons, List.cons_append]

theorem cutNames_afterRun {names : List Text} (hn : ∀ n ∈ names, IsWordName n) {t : Text}
    (ht : Ends true t) : cutNames names true t = cutNames names false t := by
  cases t with
  | nil => rw [cutNames_nil, cutNames_nil]
  | cons r rest =>
    have hr : r.isWord = false := by simpa using ht r rfl
    rw [cutNames_cons_gap hn hr, cutNames_cons_gap hn hr]

theorem endsInWord_of_uniform {w : Text} (hw : Uniform true w) : endsInWord w = true := by
  rw [endsInWord, List.getLast?_eq_getLast_of_ne_nil hw.1]
  exact hw.2 _ (List.getLast_mem hw.1)

theorem cutNames_word {names : List Text} (hn : ∀ n ∈ names, IsWordName n) {w t : Text}
    (hw : Uniform true w) (ht : Ends true t) :
    cutNames names false (w ++ t) = cutRun names w ++ cutNames names false t := by
  obtain ⟨r, rest, rfl⟩ := List.exists_cons_of_ne_nil hw.1
  have hfind := find?_standsAt hn hw.2 ht
  rw [List.cons_append] at hfind ⊢
  rw [cutNames, if_neg Bool.false_ne_true, hfind]
  by_cases hmem : r :: rest ∈ names
  · simp only [if_pos hmem, endsInWord_of_uniform hw, List.length_cons, Nat.add_sub_cancel,
      List.drop_left]
    rw [cutNames_afterRun hn ht, cutRun, if_pos hmem, List.singleton_append]
  · simp only [if_neg hmem, hw.2 r List.mem_cons_self]
    rw [cutNames_restOfRun fun x hx => hw.2 x (List.mem_cons_of_mem _ hx),
      cutNames_afterRun hn ht, cutRun_of_not_mem hmem, List.map_cons, List.cons_append]

/-- The scan cuts a text run by run. -/
theorem cutNames_eq_flatMap_runs {names : List Text} (hn : ∀ n ∈ names, IsWordName n) (t : Text) :
    cutNames names false t = (runs t).flatMap (cutRun names) := by
  induction t using runs_induction with
  | nil => rw [cutNames_nil, runs_nil, List.flatMap_nil]
  | run kind w t hw ht ih =>
    rw [runs_append hw ht, List.flatMap_cons, ← ih]
    cases kind with
    | true => exact cutNames_word hn hw ht
    | false =>
      have hmem : w ∉ names := by
        intro h
        obtain ⟨r, rest, rfl⟩ := List.exists_cons_of_ne_nil hw.1
        have h1 := hw.2 r List.mem_cons_self
        rw [(hn _ h).2 r List.mem_cons_self] at h1
        exact Bool.noConfusion h1
      rw [cutNames_gap hn hw.2, cutRun_of_not_mem hmem]

/-! ## Renaming -/

/-- A run of word characters becomes its new name, if it has one. -/
def renameRun (renames : Entries Text) (run : Text) : Text :=
  if run.all Rune.isWord then (renames.get? run).getD run else run

def renameRuns (renames : Entries Text) (t : Text) : Text := (runs t).flatMap (renameRun renames)

/-- Every old name and every new one is an identifier. -/
def AreIdentifiers (renames : Entries Text) : Prop :=
  ∀ entry ∈ renames, isIdentifier entry.1 = true ∧ isIdentifier entry.2 = true

instance (renames : Entries Text) : Decidable (AreIdentifiers renames) :=
  inferInstanceAs (Decidable (∀ entry ∈ renames, _))

theorem isWordName_of_mem_keys {renames : Entries Text} (h : AreIdentifiers renames) {name : Text}
    (hmem : name ∈ renames.keys) : IsWordName name := by
  obtain ⟨entry, hentry, rfl⟩ := List.mem_map.1 hmem
  exact isWordName_of_isIdentifier (h entry hentry).1

theorem uniform_renameRun {renames : Entries Text} (h : AreIdentifiers renames) {kind : Bool}
    {run : Text} (hrun : Uniform kind run) : Uniform kind (renameRun renames run) := by
  unfold renameRun
  split
  · next hall =>
    obtain ⟨r, rest, rfl⟩ := List.exists_cons_of_ne_nil hrun.1
    obtain rfl : true = kind :=
      (List.all_eq_true.1 hall r List.mem_cons_self).symm.trans (hrun.2 r List.mem_cons_self)
    cases hget : renames.get? (r :: rest) with
    | none => exact hrun
    | some new => exact isWordName_of_isIdentifier (h _ (Entries.mem_of_get? hget)).2
  · exact hrun

theorem flatMap_rename_cutRun {renames : Entries Text} (h : AreIdentifiers renames)
    {names : List Text} (hnames : ∀ n, n ∈ names ↔ n ∈ renames.keys) (run : Text) :
    (cutRun names run).flatMap (Piece.rename renames) = renameRun renames run := by
  unfold cutRun renameRun
  split
  · next hmem =>
    have hword := isWordName_of_mem_keys h ((hnames run).1 hmem)
    rw [if_pos (List.all_eq_true.2 hword.2), List.flatMap_singleton]
    rfl
  · next hmem =>
    have hget : renames.get? run = none :=
      Entries.get?_eq_none_iff.2 fun hkey => hmem ((hnames run).2 hkey)
    have hkept : (run.map Piece.kept).flatMap (Piece.rename renames) = run := by
      rw [List.flatMap_map]
      exact List.flatMap_singleton' run
    rw [hget, hkept, Option.getD_none, ite_self]

theorem renameAll_text_eq_renameRuns (text : Text) {renames : Entries Text}
    (h : AreIdentifiers renames) : (renameAll text renames).text = renameRuns renames text := by
  have hword : ∀ n ∈ oldNames renames, IsWordName n :=
    fun n hn => isWordName_of_mem_keys h (mem_oldNames.1 hn).1
  have hnames : ∀ n, n ∈ oldNames renames ↔ n ∈ renames.keys := fun n =>
    ⟨fun hn => (mem_oldNames.1 hn).1,
      fun hn => mem_oldNames.2 ⟨hn, (isWordName_of_mem_keys h hn).1⟩⟩
  rw [renameAll_text, renameRuns, cutNames_eq_flatMap_runs hword, List.flatMap_assoc]
  exact List.flatMap_congr fun run _ => flatMap_rename_cutRun h hnames run

/-- The runs of the renamed text are the renamed runs: a new name never grows together with what
stands beside it. -/
theorem runs_renameRuns {renames : Entries Text} (h : AreIdentifiers renames) (t : Text) :
    runs (renameRuns renames t) = (runs t).map (renameRun renames) ∧
      ∀ kind, Ends kind t → Ends kind (renameRuns renames t) := by
  induction t using runs_induction with
  | nil => exact ⟨rfl, fun kind hkind => hkind⟩
  | run kind w t hw ht ih =>
    have hrun := uniform_renameRun h hw
    have hcons : renameRuns renames (w ++ t) = renameRun renames w ++ renameRuns renames t := by
      rw [renameRuns, runs_append hw ht, List.flatMap_cons, renameRuns]
    refine ⟨?_, ?_⟩
    · rw [hcons, runs_append hrun (ih.2 kind ht), ih.1, runs_append hw ht, List.map_cons]
    · intro other hother
      rw [hcons, ends_append_iff hrun]
      exact (ends_append_iff hw).1 hother

/-- Renaming is a map over the runs of the text, and its result has no other runs than these. -/
theorem renameAll_tokenwise (text : Text) (renames : Entries Text) (h : AreIdentifiers renames) :
    (renameAll text renames).text = (runs text).flatMap (renameRun renames) ∧
      runs (renameAll text renames).text = (runs text).map (renameRun renames) := by
  rw [renameAll_text_eq_renameRuns text h]
  exact ⟨rfl, (runs_renameRuns h text).1⟩

/-- Swapped names, a name that starts with another one, and letters beyond ASCII beside a name. -/
theorem renameAll_tokenwise_swap :
    AreIdentifiers [("v1", "v10"), ("v10", "v1")] ∧
      (renameAll "v1=v10+\u00e9v1;v1.v2" [("v1", "v10"), ("v10", "v1")]).text =
        Text.ofString "v10=v1+\u00e9v1;v10.v2" := by
  have h : AreIdentifiers [("v1", "v10"), ("v10", "v1")] := by decide
  exact ⟨h, (renameAll_tokenwise _ _ h).1.trans (by decide)⟩

end Nomenclator

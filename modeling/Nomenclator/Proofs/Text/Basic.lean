import Mathlib.Data.List.TakeWhile
import Nomenclator.Text.Basic

/-!
# Parts of texts

What is left of a text without its ends, stretches that do not go on into another text, and the
characters of numbers.
-/

namespace Nomenclator.Text

/-! ## Stretches -/

variable {p : Rune → Bool} {s t : Text}

theorem takeWhile_append_of_stop (h : ∀ r ∈ t.head?, p r = false) :
    (s ++ t).takeWhile p = s.takeWhile p := by
  induction s with
  | nil =>
    cases t with
    | nil => rfl
    | cons r rest => simp [h r rfl]
  | cons r rest ih => simp only [List.cons_append, List.takeWhile_cons, ih]

theorem dropWhile_append_of_stop (h : ∀ r ∈ t.head?, p r = false) :
    (s ++ t).dropWhile p = s.dropWhile p ++ t := by
  induction s with
  | nil =>
    cases t with
    | nil => rfl
    | cons r rest => simp [h r rfl]
  | cons r rest ih =>
    simp only [List.cons_append, List.dropWhile_cons, ih]
    split <;> rfl

theorem takeWhile_append_of_all (hs : ∀ r ∈ s, p r = true) (h : ∀ r ∈ t.head?, p r = false) :
    (s ++ t).takeWhile p = s := by
  rw [takeWhile_append_of_stop h, List.takeWhile_eq_self_iff.2 hs]

theorem dropWhile_append_of_all (hs : ∀ r ∈ s, p r = true) (h : ∀ r ∈ t.head?, p r = false) :
    (s ++ t).dropWhile p = t := by
  rw [dropWhile_append_of_stop h, List.dropWhile_eq_nil_iff.2 hs, List.nil_append]

theorem head?_append_of_not (hs : ∀ r ∈ s, p r = false) (ht : ∀ r ∈ t.head?, p r = false) :
    ∀ r ∈ (s ++ t).head?, p r = false := by
  cases s with
  | nil => exact ht
  | cons r rest =>
    rintro r ⟨⟩
    exact hs r List.mem_cons_self

/-! ## Ends -/

theorem exists_dropEndWhile (p : Rune → Bool) (t : Text) :
    ∃ after, t = dropEndWhile p t ++ after ∧ ∀ r ∈ after, p r = true := by
  refine ⟨(t.reverse.takeWhile p).reverse, ?_, fun r hr => ?_⟩
  · rw [dropEndWhile, ← List.reverse_append, List.takeWhile_append_dropWhile, List.reverse_reverse]
  · exact List.mem_takeWhile_imp (List.mem_reverse.1 hr)

theorem dropEndWhile_eq_nil_iff : dropEndWhile p t = [] ↔ ∀ r ∈ t, p r = true := by
  rw [dropEndWhile, List.reverse_eq_nil_iff, List.dropWhile_eq_nil_iff]
  simp

theorem isPrefix_dropEndWhile (p : Rune → Bool) (t : Text) : dropEndWhile p t <+: t := by
  obtain ⟨after, hafter, -⟩ := exists_dropEndWhile p t
  exact ⟨after, hafter.symm⟩

theorem getLast?_dropEndWhile {t : Text} : ∀ r ∈ (dropEndWhile p t).getLast?, p r = false := by
  intro r hr
  rw [dropEndWhile, List.getLast?_reverse] at hr
  have hhead := List.head?_dropWhile_not p t.reverse
  rw [Option.mem_def.1 hr] at hhead
  simpa using hhead

theorem dropEndWhile_of_not {t : Text} (h : ∀ r ∈ t, p r = false) : dropEndWhile p t = t := by
  obtain ⟨after, hafter, hall⟩ := exists_dropEndWhile p t
  have hnone : after = [] := by
    refine List.eq_nil_iff_forall_not_mem.2 fun r hr => ?_
    have hr' := h r (by rw [hafter]; exact List.mem_append_right _ hr)
    rw [hall r hr] at hr'
    exact Bool.noConfusion hr'
  rw [hnone, List.append_nil] at hafter
  exact hafter.symm

/-- What is trimmed away has no say in whether all of a text is of a kind that it is of itself. -/
theorem all_trim {q : Rune → Bool} (h : ∀ r, p r = true → q r = true) (t : Text) :
    (trim p t).all q = t.all q := by
  obtain ⟨after, hafter, hall⟩ := exists_dropEndWhile p (t.dropWhile p)
  have hend : after.all q = true := List.all_eq_true.2 fun r hr => h r (hall r hr)
  have hstart : (t.takeWhile p).all q = true :=
    List.all_eq_true.2 fun r hr => h r (List.mem_takeWhile_imp hr)
  calc (trim p t).all q
      = (t.takeWhile p ++ (trim p t ++ after)).all q := by
        rw [List.all_append, List.all_append, hstart, hend, Bool.true_and, Bool.and_true]
    _ = t.all q := by rw [trim, ← hafter, List.takeWhile_append_dropWhile]

theorem trim_subset (p : Rune → Bool) (t : Text) : trim p t ⊆ t :=
  List.Subset.trans (isPrefix_dropEndWhile p _).subset (List.dropWhile_suffix p).subset

theorem head?_trim {t : Text} : ∀ r ∈ (trim p t).head?, p r = false := by
  intro r hr
  obtain ⟨after, hafter⟩ := isPrefix_dropEndWhile p (t.dropWhile p)
  have hhead := List.head?_dropWhile_not p t
  obtain ⟨rest, hrest⟩ := List.head?_eq_some_iff.1 hr
  rw [← hafter, show dropEndWhile p (t.dropWhile p) = r :: rest from hrest] at hhead
  simpa using hhead

theorem dropEndWhile_append_of_all (s : Text) {after : Text} (h : ∀ r ∈ after, p r = true) :
    dropEndWhile p (s ++ after) = dropEndWhile p s := by
  rw [dropEndWhile, List.reverse_append, List.dropWhile_append_of_pos, dropEndWhile]
  exact fun r hr => h r (List.mem_reverse.1 hr)

theorem trim_append_of_all (s : Text) {after : Text} (h : ∀ r ∈ after, p r = true) :
    trim p (s ++ after) = trim p s := by
  unfold trim
  rw [List.dropWhile_append]
  split
  · next hnone => rw [List.dropWhile_eq_nil_iff.2 h, List.isEmpty_iff.1 hnone]
  · exact dropEndWhile_append_of_all _ h

theorem trim_cons_of_pos {r : Rune} (h : p r = true) (s : Text) : trim p (r :: s) = trim p s := by
  rw [trim, List.dropWhile_cons_of_pos h, trim]

theorem dropWhile_of_stop (h : ∀ r ∈ t.head?, p r = false) : t.dropWhile p = t :=
  dropWhile_append_of_all (s := []) (by simp) h

theorem trim_trim (p : Rune → Bool) (t : Text) : trim p (trim p t) = trim p t := by
  have hend : dropEndWhile p (trim p t) = trim p t := by
    rw [dropEndWhile, dropWhile_of_stop, List.reverse_reverse]
    rw [List.head?_reverse]
    exact getLast?_dropEndWhile
  rw [trim, dropWhile_of_stop head?_trim, hend]

/-! ## Pieces and lines -/

variable {sep : Rune}

theorem piecesAt_of_not_mem {piece : Text} (h : sep ∉ piece) : piecesAt sep piece = [piece] := by
  induction piece with
  | nil => rfl
  | cons r rest ih =>
    obtain ⟨hr, hrest⟩ := List.ne_and_not_mem_of_not_mem_cons h
    rw [piecesAt, if_neg (Ne.symm hr), ih hrest]

theorem piecesAt_append {piece : Text} (h : sep ∉ piece) (rest : Text) :
    piecesAt sep (piece ++ sep :: rest) = piece :: piecesAt sep rest := by
  induction piece with
  | nil => rw [List.nil_append, piecesAt, if_pos rfl]
  | cons r piece ih =>
    obtain ⟨hr, hpiece⟩ := List.ne_and_not_mem_of_not_mem_cons h
    rw [List.cons_append, piecesAt, if_neg (Ne.symm hr), ih hpiece]

theorem lines_of_not_mem {line : Text} (h : ∀ r ∈ line, r.code ≠ 0x0A) : lines line = [line] :=
  piecesAt_of_not_mem fun hmem => h _ hmem rfl

theorem lines_append {line : Text} (h : ∀ r ∈ line, r.code ≠ 0x0A) (rest : Text) :
    lines (line ++ ⟨0x0A⟩ :: rest) = line :: lines rest :=
  piecesAt_append (fun hmem => h _ hmem rfl) rest

/-- Induction over the lines of a text. -/
theorem lines_induction {P : Text → Prop} (last : ∀ line, (∀ r ∈ line, r.code ≠ 0x0A) → P line)
    (line : ∀ line rest, (∀ r ∈ line, r.code ≠ 0x0A) → P rest → P (line ++ ⟨0x0A⟩ :: rest))
    (t : Text) : P t := by
  have hfirst : ∀ r ∈ t.takeWhile fun r => r.code != 0x0A, r.code ≠ 0x0A :=
    fun r hr => by simpa using List.mem_takeWhile_imp hr
  have hstop := List.head?_dropWhile_not (fun r : Rune => r.code != 0x0A) t
  have hsplit := List.takeWhile_append_dropWhile (p := fun r : Rune => r.code != 0x0A) (l := t)
  generalize t.takeWhile (fun r => r.code != 0x0A) = first at hfirst hsplit
  cases hrest : t.dropWhile fun r => r.code != 0x0A with
  | nil =>
    rw [hrest, List.append_nil] at hsplit
    exact hsplit ▸ last first hfirst
  | cons r rest =>
    rw [hrest] at hsplit hstop
    obtain ⟨code⟩ := r
    obtain rfl : code = 0x0A := by simpa using hstop
    have hlength : rest.length < t.length := by
      rw [← hsplit, List.length_append, List.length_cons]
      omega
    exact hsplit ▸ line first rest hfirst (lines_induction last line rest)
termination_by t.length

/-! ## Joining -/

theorem join_cons (sep piece : Text) {rest : List Text} (h : rest ≠ []) :
    join sep (piece :: rest) = piece ++ sep ++ join sep rest := by
  cases rest with
  | nil => exact absurd rfl h
  | cons second more => rfl

theorem piecesAt_join {pieces : List Text} (hsome : pieces ≠ [])
    (h : ∀ piece ∈ pieces, sep ∉ piece) : piecesAt sep (join [sep] pieces) = pieces := by
  induction pieces with
  | nil => exact absurd rfl hsome
  | cons piece rest ih =>
    obtain ⟨hpiece, hmore⟩ := List.forall_mem_cons.1 h
    by_cases hrest : rest = []
    · subst hrest
      exact piecesAt_of_not_mem hpiece
    · rw [join_cons _ _ hrest, List.append_assoc]
      exact (piecesAt_append hpiece _).trans (congrArg _ (ih hrest hmore))

theorem lines_join {pieces : List Text} (hsome : pieces ≠ [])
    (h : ∀ piece ∈ pieces, ∀ r ∈ piece, r.code ≠ 0x0A) : lines (join [⟨0x0A⟩] pieces) = pieces :=
  piecesAt_join hsome fun piece hpiece hmem => h piece hpiece _ hmem rfl

theorem join_concat (sep piece : Text) {pieces : List Text} (h : pieces ≠ []) :
    join sep (pieces ++ [piece]) = join sep pieces ++ sep ++ piece := by
  induction pieces with
  | nil => exact absurd rfl h
  | cons first rest ih =>
    by_cases hrest : rest = []
    · subst hrest
      rfl
    · rw [List.cons_append, join_cons _ _ (by simp), ih hrest, join_cons _ _ hrest]
      simp only [List.append_assoc]

theorem forall_mem_join {q : Rune → Prop} {sep : Text} {pieces : List Text}
    (hsep : ∀ r ∈ sep, q r) (hpieces : ∀ piece ∈ pieces, ∀ r ∈ piece, q r) :
    ∀ r ∈ join sep pieces, q r := by
  induction pieces with
  | nil => simp [join]
  | cons piece rest ih =>
    obtain ⟨hpiece, hrest⟩ := List.forall_mem_cons.1 hpieces
    by_cases hnone : rest = []
    · subst hnone
      exact hpiece
    · rw [join_cons _ _ hnone]
      simp only [List.forall_mem_append]
      exact ⟨⟨hpiece, hsep⟩, ih hrest⟩

/-! ## Numbers -/

theorem isAsciiDigit_of_mem_ofNat {n : Nat} {r : Rune} (h : r ∈ ofNat n) :
    r.isAsciiDigit = true := by
  obtain ⟨c, hc, rfl⟩ := List.mem_map.1 h
  have hdigits : c ∈ Nat.toDigits 10 n := by
    rwa [show (toString n).toList = Nat.toDigits 10 n from String.toList_ofList] at hc
  have hdigit := Nat.isDigit_of_mem_toDigits (by decide) (by decide) hdigits
  simp only [Char.isDigit, Bool.and_eq_true, decide_eq_true_eq] at hdigit
  simp only [Rune.isAsciiDigit, Rune.within, Bool.and_eq_true, decide_eq_true_eq]
  exact hdigit

end Nomenclator.Text

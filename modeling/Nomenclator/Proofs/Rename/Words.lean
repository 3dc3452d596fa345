import Nomenclator.Proofs.Rename.Tokens
import Nomenclator.Proofs.Text.Basic

/-!
# Renaming word by word

Renaming leaves all alone that is no word character. What stands between words can be read off the
renamed text as off the text itself.
-/

namespace Nomenclator

/-! ## Characters -/

def blankRanges : List (Nat × Nat) :=
  [(0x09, 0x0D), (0x1C, 0x20), (0x85, 0x85), (0xA0, 0xA0), (0x1680, 0x1680), (0x2000, 0x200A),
    (0x2028, 0x2029), (0x202F, 0x202F), (0x205F, 0x205F), (0x3000, 0x3000)]

theorem within_self (r : Rune) (code : Nat) : r.within code code = (r.code == code) := by
  rw [Bool.eq_iff_iff]
  simp only [Rune.within, Bool.and_eq_true, decide_eq_true_eq, beq_iff_eq]
  omega

theorem isBlank_eq_any (r : Rune) :
    r.isBlank = blankRanges.any fun range => r.within range.1 range.2 := by
  simp only [blankRanges, List.any_cons, List.any_nil, within_self, Rune.isBlank, Bool.or_false,
    Bool.or_assoc]

theorem isWord_of_isBlank {r : Rune} (h : r.isBlank = true) : r.isWord = false := by
  rw [isBlank_eq_any, List.any_eq_true] at h
  obtain ⟨⟨low, high⟩, hmem, hr⟩ := h
  simp only [Rune.within, Bool.and_eq_true, decide_eq_true_eq] at hr
  unfold Rune.isWord
  split
  · have hascii : ∀ code < 0x80, (⟨code⟩ : Rune).isBlank = true → (⟨code⟩ : Rune).isAsciiWord =
        false := by decide
    refine hascii r.code ‹_› ?_
    rw [isBlank_eq_any, List.any_eq_true]
    exact ⟨_, hmem, by simpa [Rune.within] using hr⟩
  · -- no letter range meets a range of blanks
    have hapart : (blankRanges.all fun blanks => Rune.letterRanges.all fun letters =>
        blanks.2.blt letters.1 || letters.2.blt blanks.1) = true := by decide +kernel
    rw [List.any_eq_false]
    rintro ⟨first, last⟩ hletters hwithin
    simp only [Rune.within, Bool.and_eq_true, decide_eq_true_eq] at hwithin
    have hranges := List.all_eq_true.1 (List.all_eq_true.1 hapart _ hmem) _ hletters
    simp only [Bool.or_eq_true, Nat.blt_eq] at hranges
    omega

theorem isAsciiWord_of_mem_identifier {name : Text} (h : isIdentifier name = true) {r : Rune}
    (hr : r ∈ name) : r.isAsciiWord = true := by
  cases name with
  | nil => simp at hr
  | cons first rest =>
    simp only [isIdentifier, Bool.and_eq_true, List.all_eq_true] at h
    rcases List.mem_cons.1 hr with rfl | hr
    · exact Rune.isAsciiWord_of_opensIdentifier h.1
    · exact h.2 r hr

theorem isWord_of_isHexDigit {r : Rune} (h : r.isHexDigit = true) : r.isWord = true := by
  have hlow : r.code < 0x80 := by
    by_contra hhigh
    have hnone : r.hexValue? = none := by
      simp only [Rune.hexValue?, Rune.isAsciiDigit, Rune.within, Bool.and_eq_true,
        decide_eq_true_eq]
      rw [if_neg (by omega), if_neg (by omega), if_neg (by omega)]
    rw [Rune.isHexDigit, hnone] at h
    exact Bool.noConfusion h
  have hascii : ∀ code < 0x80, (⟨code⟩ : Rune).isHexDigit = true →
      (⟨code⟩ : Rune).isWord = true := by decide
  exact hascii r.code hlow h

/-! ## Words and gaps -/

variable {renames : Entries Text}

/-- Induction over a text, word by word and character by character between the words. -/
theorem words_induction {P : Text → Prop} (nil : P [])
    (gap : ∀ r s, r.isWord = false → P s → P (r :: s))
    (word : ∀ w s, Uniform true w → Ends true s → P s → P (w ++ s)) (t : Text) : P t := by
  induction t using runs_induction with
  | nil => exact nil
  | run kind w t hw ht ih =>
    cases kind with
    | true => exact word w t hw ht ih
    | false =>
      have hgap : ∀ u : Text, (∀ r ∈ u, r.isWord = false) → P (u ++ t) := by
        intro u hu
        induction u with
        | nil => exact ih
        | cons r rest ih' =>
          exact gap r _ (hu r List.mem_cons_self) (ih' fun x hx => hu x (List.mem_cons_of_mem _ hx))
      exact hgap w hw.2

theorem words_cases (t : Text) :
    t = [] ∨ (∃ r s, t = r :: s ∧ r.isWord = false) ∨
      ∃ w s, t = w ++ s ∧ Uniform true w ∧ Ends true s := by
  induction t using words_induction with
  | nil => exact .inl rfl
  | gap r s hr _ => exact .inr (.inl ⟨r, s, rfl, hr⟩)
  | word w s hw hs _ => exact .inr (.inr ⟨w, s, rfl, hw, hs⟩)

theorem exists_cons_of_uniform {w : Text} (hw : Uniform true w) :
    ∃ r rest, w = r :: rest ∧ r.isWord = true := by
  obtain ⟨r, rest, rfl⟩ := List.exists_cons_of_ne_nil hw.1
  exact ⟨r, rest, rfl, hw.2 r List.mem_cons_self⟩

theorem renameRuns_nil : renameRuns renames [] = [] := rfl

theorem renameRuns_append {kind : Bool} {w t : Text} (hw : Uniform kind w) (ht : Ends kind t) :
    renameRuns renames (w ++ t) = renameRun renames w ++ renameRuns renames t := by
  rw [renameRuns, runs_append hw ht, List.flatMap_cons, renameRuns]

theorem renameRun_gap {w : Text} (hw : Uniform false w) : renameRun renames w = w := by
  obtain ⟨r, rest, rfl⟩ := List.exists_cons_of_ne_nil hw.1
  rw [renameRun, if_neg]
  intro hall
  have hr := List.all_eq_true.1 hall r List.mem_cons_self
  rw [hw.2 r List.mem_cons_self] at hr
  exact Bool.noConfusion hr

theorem ends_nil (kind : Bool) : Ends kind [] := by simp [Ends]

theorem renameRuns_cons {r : Rune} (hr : r.isWord = false) (s : Text) :
    renameRuns renames (r :: s) = r :: renameRuns renames s := by
  have hone : Uniform false [r] := ⟨by simp, by simpa using hr⟩
  have hmore (w t : Text) (hw : ∀ x ∈ w, x.isWord = false) (ht : Ends false t) :
      renameRuns renames (r :: w ++ t) = r :: w ++ renameRuns renames t := by
    have hgap : Uniform false (r :: w) := ⟨by simp, List.forall_mem_cons.2 ⟨hr, hw⟩⟩
    rw [renameRuns_append hgap ht, renameRun_gap hgap]
  by_cases hs : s = []
  · subst hs
    exact hmore [] [] (by simp) (ends_nil false)
  · obtain ⟨kind, w, t, rfl, hw, ht⟩ := exists_run hs
    cases kind with
    | true => exact hmore [] (w ++ t) (by simp) ((ends_append_iff hw).2 (by simp))
    | false =>
      rw [← List.cons_append, hmore w t hw.2 ht, renameRuns_append hw ht, renameRun_gap hw]
      rfl

theorem renameRuns_gap {w : Text} (hw : ∀ r ∈ w, r.isWord = false) (s : Text) :
    renameRuns renames (w ++ s) = w ++ renameRuns renames s := by
  induction w with
  | nil => rfl
  | cons r rest ih =>
    rw [List.cons_append, renameRuns_cons (hw r List.mem_cons_self),
      ih fun x hx => hw x (List.mem_cons_of_mem _ hx), List.cons_append]

theorem isBlank_of_isWord {r : Rune} (h : r.isWord = true) : r.isBlank = false := by
  by_contra hr
  rw [isWord_of_isBlank (by simpa using hr)] at h
  exact Bool.noConfusion h

theorem not_of_uniform {p : Rune → Bool} (hp : ∀ r, p r = true → r.isWord = false) {w : Text}
    (hw : Uniform true w) (t : Text) :
    (w ++ t).takeWhile p = [] ∧ (w ++ t).dropWhile p = w ++ t := by
  obtain ⟨r, rest, rfl, hword⟩ := exists_cons_of_uniform hw
  have hr : ¬p r = true := by
    intro hpr
    rw [hp r hpr] at hword
    exact Bool.noConfusion hword
  exact ⟨List.takeWhile_cons_of_neg hr, List.dropWhile_cons_of_neg hr⟩

section

variable (h : AreIdentifiers renames)
include h

theorem ends_renameRuns {kind : Bool} {t : Text} (ht : Ends kind t) :
    Ends kind (renameRuns renames t) := (runs_renameRuns h t).2 kind ht

theorem renameRuns_eq_append {s w u : Text} (hw : ∀ r ∈ w, r.isWord = false)
    (hs : renameRuns renames s = w ++ u) : ∃ t, s = w ++ t ∧ renameRuns renames t = u := by
  induction w generalizing s with
  | nil => exact ⟨s, rfl, hs⟩
  | cons r rest ih =>
    have hr := hw r List.mem_cons_self
    induction s using words_induction with
    | nil => simp [renameRuns_nil] at hs
    | gap x t hx _ =>
      rw [renameRuns_cons hx, List.cons_append, List.cons.injEq] at hs
      obtain ⟨rfl, hs⟩ := hs
      obtain ⟨v, rfl, hv⟩ := ih (fun y hy => hw y (List.mem_cons_of_mem _ hy)) hs
      exact ⟨v, rfl, hv⟩
    | word v t hv ht _ =>
      obtain ⟨x, more, hmore, hword⟩ := exists_cons_of_uniform (uniform_renameRun h hv)
      rw [renameRuns_append hv ht, hmore, List.cons_append, List.cons_append,
        List.cons.injEq] at hs
      rw [hs.1, hr] at hword
      exact Bool.noConfusion hword

/-- A word at the start of the renamed text is the new name of the one at the start of the text. -/
theorem renameRuns_eq_word {s w u : Text} (hw : Uniform true w) (hu : Ends true u)
    (hs : renameRuns renames s = w ++ u) :
    ∃ v t, s = v ++ t ∧ Uniform true v ∧ Ends true t ∧ renameRun renames v = w ∧
      renameRuns renames t = u := by
  obtain ⟨x, more, rfl, hx⟩ := exists_cons_of_uniform hw
  induction s using words_induction with
  | nil => simp [renameRuns_nil] at hs
  | gap r t hr _ =>
    rw [renameRuns_cons hr, List.cons_append, List.cons.injEq] at hs
    rw [hs.1, hx] at hr
    exact Bool.noConfusion hr
  | word v t hv ht _ =>
    have hrun := uniform_renameRun h hv
    rw [renameRuns_append hv ht] at hs
    have hstop : ∀ t : Text, Ends true t → ∀ r ∈ t.head?, r.isWord = false := by
      intro t ht r hr
      simpa using ht r hr
    have hsame := congrArg (List.takeWhile Rune.isWord) hs
    rw [Text.takeWhile_append_of_all hrun.2 (hstop _ (ends_renameRuns h ht)),
      Text.takeWhile_append_of_all hw.2 (hstop _ hu)] at hsame
    rw [hsame] at hs
    exact ⟨v, t, rfl, hv, ht, hsame, List.append_cancel_left hs⟩

/-! ## Stretches between words -/

theorem span_renameRuns {p : Rune → Bool} (hp : ∀ r, p r = true → r.isWord = false) (s : Text) :
    (renameRuns renames s).takeWhile p = s.takeWhile p ∧
      (renameRuns renames s).dropWhile p = renameRuns renames (s.dropWhile p) := by
  induction s using words_induction with
  | nil => exact ⟨rfl, rfl⟩
  | gap r t hr ih =>
    rw [renameRuns_cons hr]
    by_cases hpr : p r = true
    · rw [List.takeWhile_cons_of_pos hpr, List.takeWhile_cons_of_pos hpr,
        List.dropWhile_cons_of_pos hpr, List.dropWhile_cons_of_pos hpr, ih.1]
      exact ⟨rfl, ih.2⟩
    · rw [List.takeWhile_cons_of_neg hpr, List.takeWhile_cons_of_neg hpr,
        List.dropWhile_cons_of_neg hpr, List.dropWhile_cons_of_neg hpr, renameRuns_cons hr]
      exact ⟨rfl, rfl⟩
  | word w t hw ht _ =>
    obtain ⟨htake, hdrop⟩ := not_of_uniform hp hw t
    rw [htake, hdrop, renameRuns_append hw ht]
    exact not_of_uniform hp (uniform_renameRun h hw) _

theorem mem_renameRun {w : Text} {r : Rune} (hr : r ∈ renameRun renames w) :
    r ∈ w ∨ r.isAsciiWord = true := by
  unfold renameRun at hr
  split at hr
  · cases hget : renames.get? w with
    | none =>
      rw [hget] at hr
      exact .inl hr
    | some new =>
      rw [hget] at hr
      exact .inr (isAsciiWord_of_mem_identifier (h _ (Entries.mem_of_get? hget)).2 hr)
  · exact .inl hr

theorem mem_renameRuns {s : Text} {r : Rune} (hr : r ∈ renameRuns renames s) :
    r ∈ s ∨ r.isAsciiWord = true := by
  induction s using words_induction with
  | nil => exact .inl hr
  | gap x t hx ih =>
    rw [renameRuns_cons hx] at hr
    rcases List.mem_cons.1 hr with rfl | hr
    · exact .inl List.mem_cons_self
    · exact (ih hr).imp_left (List.mem_cons_of_mem _)
  | word w t hw ht ih =>
    rw [renameRuns_append hw ht] at hr
    rcases List.mem_append.1 hr with hr | hr
    · exact (mem_renameRun h hr).imp_left (List.mem_append_left _)
    · exact (ih hr).imp_left (List.mem_append_right _)

theorem isBlank_renameRuns (s : Text) : Text.isBlank (renameRuns renames s) = Text.isBlank s := by
  have hword (w t : Text) (hw : Uniform true w) : Text.isBlank (w ++ t) = false := by
    obtain ⟨r, rest, rfl, hr⟩ := exists_cons_of_uniform hw
    simp [Text.isBlank, isBlank_of_isWord hr]
  induction s using words_induction with
  | nil => rfl
  | gap r t hr ih =>
    rw [renameRuns_cons hr]
    exact congrArg (r.isBlank && ·) ih
  | word w t hw ht _ =>
    rw [renameRuns_append hw ht, hword _ _ hw, hword _ _ (uniform_renameRun h hw)]

end

end Nomenclator

import Nomenclator.Proofs.Console.Plain

/-!
# Measuring in parts

The cells of a text can be counted from the left. So a text takes at least the cells of its
beginning, and at least those of its parts together, unless a part ends in a joiner, which would
hide the next character.
-/

namespace Nomenclator.Console

/-- The cells of a text behind another. `joined` tells whether a joiner comes right before it, and
`last` is the last character before it that took cells, unless it has been widened. -/
def measureFrom (joined : Bool) (last : Option Rune) : Text → Nat
  | [] => 0
  | r :: rest =>
    if joined then measureFrom false last rest
    else if r = joiner then measureFrom true last rest
    else if r = pictureMark then
      if last.any widens then 1 + measureFrom false none rest else measureFrom false last rest
    else if r.cells = 0 then measureFrom false last rest
    else r.cells + measureFrom false (some r) rest

theorem measureFrom_of_zero {last : Option Rune} {r : Rune} (hjoiner : r ≠ joiner)
    (hwidens : r = pictureMark → last.any widens = false) (hzero : r = pictureMark ∨ r.cells = 0)
    (rest : Text) : measureFrom false last (r :: rest) = measureFrom false last rest := by
  by_cases hmark : r = pictureMark
  · have hnot := hwidens hmark
    subst hmark
    simp [measureFrom, hjoiner, hnot]
  · simp [measureFrom, hjoiner, hmark, hzero.resolve_left hmark]

theorem measureFrom_of_pos {last : Option Rune} {r : Rune} (hjoiner : r ≠ joiner)
    (hmark : r ≠ pictureMark) (hzero : r.cells ≠ 0) (rest : Text) :
    measureFrom false last (r :: rest) = r.cells + measureFrom false (some r) rest := by
  simp [measureFrom, hjoiner, hmark, hzero]

/-! ## The measure of a text -/

theorem totalWidth_cons (n : Nat) (widths : List Nat) :
    totalWidth (n :: widths) = n + totalWidth widths := by
  unfold totalWidth
  rw [← List.sum_eq_foldl, ← List.sum_eq_foldl, List.sum_cons]

theorem cellsOf_reverse (ps : List Piece) : cellsOf ps.reverse = cellsOf ps := by
  unfold cellsOf totalWidth
  rw [← List.sum_eq_foldl, ← List.sum_eq_foldl, List.map_reverse, List.sum_reverse]

theorem cellsOf_extendLast (more : Text) (n : Nat) (done : List Piece) :
    cellsOf (extendLast more n done) = cellsOf done + n := by
  cases done with
  | nil => simp [extendLast, cellsOf, totalWidth]
  | cons piece before =>
    simp only [extendLast, cellsOf_cons]
    omega

theorem extendLast_ne_nil (more : Text) (n : Nat) (done : List Piece) :
    extendLast more n done ≠ [] := by
  cases done <;> simp [extendLast]

theorem cellsOf_piecesFrom {done : List Piece} (h : done ≠ []) (last : Option Rune) (t : Text) :
    cellsOf (piecesFrom done last t) = cellsOf done + measureFrom false last t := by
  have hsome : done.isEmpty = false := by simpa using h
  fun_induction piecesFrom done last t with
  | case1 => rw [cellsOf_reverse, measureFrom, Nat.add_zero]
  | case2 => simp [cellsOf_reverse, cellsOf_extendLast, measureFrom]
  | case3 done last hjoiner =>
    rw [cellsOf_reverse, cellsOf_extendLast, hsome]
    simp [measureFrom, hjoiner]
  | case4 done last r hjoiner hmark hzero =>
    simp [cellsOf_reverse, cellsOf_extendLast, measureFrom, hjoiner, hmark, hzero]
  | case5 done last r hjoiner hmark hzero =>
    rw [cellsOf_reverse, cellsOf_cons, measureFrom_of_pos hjoiner hmark hzero, Nat.add_comm]
    rfl
  | case6 done last r next rest hjoins ih =>
    obtain rfl : r = joiner := by simpa [hsome] using hjoins
    rw [ih (extendLast_ne_nil _ _ _) (by simp [extendLast_ne_nil]), cellsOf_extendLast]
    simp [measureFrom]
  | case7 done last r next rest hjoins hwidens ih =>
    simp only [hsome, Bool.not_false, Bool.and_true, Bool.and_eq_true, decide_eq_true_eq] at hwidens
    obtain ⟨rfl, hwidens⟩ := hwidens
    rw [ih (extendLast_ne_nil _ _ _) (by simp [extendLast_ne_nil]), cellsOf_extendLast]
    simp [measureFrom, hwidens, show pictureMark ≠ joiner by decide, Nat.add_assoc]
  | case8 done last r next rest hjoins hwidens hextends ih =>
    have hjoiner : r ≠ joiner := by simpa [hsome] using hjoins
    have hnot : r = pictureMark → last.any widens = false := by simpa [hsome] using hwidens
    rw [ih (extendLast_ne_nil _ _ _) (by simp [extendLast_ne_nil]), cellsOf_extendLast,
      measureFrom_of_zero hjoiner hnot (by simpa [hjoiner] using hextends)]
    rfl
  | case9 done last r next rest hjoins hwidens htakes ih =>
    simp only [Bool.or_eq_true, decide_eq_true_eq, not_or] at htakes
    obtain ⟨⟨hjoiner, hmark⟩, hzero⟩ := htakes
    rw [ih (List.cons_ne_nil _ _) rfl, cellsOf_cons, measureFrom_of_pos hjoiner hmark hzero]
    dsimp only
    omega

theorem cellsOf_pieces_cons {r : Rune} (hjoiner : r ≠ joiner) (rest : Text) :
    cellsOf (pieces (r :: rest)) = measureFrom false none (r :: rest) := by
  by_cases hzero : r = pictureMark ∨ r.cells = 0
  · rw [measureFrom_of_zero hjoiner (by simp) hzero]
    have hfirst : pieces (r :: rest) = piecesFrom [⟨[r], 0⟩] none rest := by
      rcases hzero with rfl | hzero <;> cases rest <;>
        simp_all [pieces, piecesFrom, extendLast]
    rw [hfirst, cellsOf_piecesFrom (List.cons_ne_nil _ _), cellsOf_cons]
    exact Nat.zero_add _
  · rw [not_or] at hzero
    have hfirst : pieces (r :: rest) = piecesFrom [⟨[r], r.cells⟩] (some r) rest := by
      cases rest <;> simp [pieces, piecesFrom, hjoiner, hzero.1, hzero.2]
    rw [hfirst, cellsOf_piecesFrom (List.cons_ne_nil _ _), cellsOf_cons,
      measureFrom_of_pos hjoiner hzero.1 hzero.2]
    rfl

theorem cells_eq_measureFrom (t : Text) : cells t = measureFrom false none t := by
  fun_induction cells t with
  | case1 => rfl
  | case2 r =>
    by_cases hjoiner : r = joiner
    · subst hjoiner
      rfl
    · exact cellsOf_pieces_cons hjoiner []
  | case3 next rest ih =>
    rw [ih]
    simp [measureFrom]
  | case4 r next rest hjoiner => exact cellsOf_pieces_cons hjoiner _

/-! ## Parts -/

theorem measureFrom_none_le (joined : Bool) (last : Option Rune) (t : Text) :
    measureFrom joined none t ≤ measureFrom joined last t := by
  -- they differ where a picture mark comes first, which may widen the character before the text
  induction t generalizing joined last with
  | nil => exact Nat.le_refl _
  | cons r rest ih =>
    unfold measureFrom
    split_ifs with hjoined hjoiner hmark hnone hsome hsome hzero
    · exact ih false last
    · exact ih true last
    · simp at hnone
    · simp at hnone
    · exact Nat.le_trans (ih false none) (Nat.le_add_left _ _)
    · exact ih false last
    · exact ih false last
    · exact Nat.le_refl _

theorem cells_le_append (s t : Text) : cells s ≤ cells (s ++ t) := by
  -- up to the end of `s` the measure of both is in the same state
  have hfrom (joined : Bool) (last : Option Rune) :
      measureFrom joined last s ≤ measureFrom joined last (s ++ t) := by
    induction s generalizing joined last with
    | nil => exact Nat.zero_le _
    | cons r rest ih =>
      rw [List.cons_append]
      unfold measureFrom
      split_ifs
      · exact ih false last
      · exact ih true last
      · exact Nat.add_le_add_left (ih false none) 1
      · exact ih false last
      · exact ih false last
      · exact Nat.add_le_add_left (ih false (some r)) r.cells
  rw [cells_eq_measureFrom, cells_eq_measureFrom]
  exact hfrom false none

theorem cells_mono {s t : Text} (h : s <+: t) : cells s ≤ cells t := by
  obtain ⟨rest, rfl⟩ := h
  exact cells_le_append s rest

theorem measureFrom_append_le {joined : Bool} {s : Text} (hsome : joined = true → s ≠ [])
    (hlast : s.getLast? ≠ some joiner) (last : Option Rune) (t : Text) :
    measureFrom joined last s + measureFrom false none t ≤ measureFrom joined last (s ++ t) := by
  induction s generalizing joined last with
  | nil =>
    have hjoined : joined = false := by simpa using hsome
    subst hjoined
    rw [List.nil_append, measureFrom, Nat.zero_add]
    exact measureFrom_none_le false last t
  | cons r rest ih =>
    have hlast' : rest.getLast? ≠ some joiner := by
      cases rest with
      | nil => simp
      | cons next rest => simpa using hlast
    rw [List.cons_append, measureFrom, measureFrom]
    split_ifs with hjoined hjoiner hmark hwidens hzero
    · exact ih (by simp) hlast' last
    · have hmore : rest ≠ [] := by
        rintro rfl
        simp [hjoiner] at hlast
      exact ih (fun _ => hmore) hlast' last
    · rw [Nat.add_assoc]
      exact Nat.add_le_add_left (ih (by simp) hlast' none) 1
    · exact ih (by simp) hlast' last
    · exact ih (by simp) hlast' last
    · rw [Nat.add_assoc]
      exact Nat.add_le_add_left (ih (by simp) hlast' (some r)) r.cells

theorem cells_append_le {s : Text} (hlast : s.getLast? ≠ some joiner) (t : Text) :
    cells s + cells t ≤ cells (s ++ t) := by
  simp only [cells_eq_measureFrom]
  exact measureFrom_append_le (by simp) hlast none t

/-- Parts take no more cells than the whole if no part but the last ends in a joiner. -/
theorem totalWidth_le {parts : List Text} (h : ∀ t ∈ parts.dropLast, t.getLast? ≠ some joiner) :
    totalWidth (parts.map cells) ≤ cells parts.flatten := by
  induction parts with
  | nil => exact Nat.le_refl _
  | cons t rest ih =>
    rw [List.map_cons, totalWidth_cons, List.flatten_cons]
    cases rest with
    | nil => exact Nat.le_of_eq (by simp [totalWidth])
    | cons next more =>
      rw [List.dropLast_cons_cons, List.forall_mem_cons] at h
      exact Nat.le_trans (Nat.add_le_add_left (ih h.2) _) (cells_append_le h.1 _)

end Nomenclator.Console

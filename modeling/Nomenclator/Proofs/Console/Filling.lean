import Nomenclator.Proofs.Console.Fitting

/-!
# Cuts that keep the text

A text that is too wide can be cut and still be whole: a joiner at its start hides characters from
its measure and from its pieces, and not the same ones. So the last stretch of a line is written as
it is also where it is too wide by its measure, if its pieces fill what the others leave.
-/

namespace Nomenclator.Console

/-! ## Pieces -/

theorem pos_of_mem_tail_pieces (t : Text) : ∀ piece ∈ (pieces t).tail, 0 < piece.cells := by
  -- the pieces so far come in reverse, so the first one is the last of them
  have hextend (more : Text) (n : Nat) {done : List Piece}
      (h : ∀ piece ∈ done.dropLast, 0 < piece.cells) :
      ∀ piece ∈ (extendLast more n done).dropLast, 0 < piece.cells := by
    cases done with
    | nil => simp [extendLast]
    | cons piece before =>
      cases before with
      | nil => simp [extendLast]
      | cons next before =>
        simp only [extendLast, List.dropLast_cons_cons, List.forall_mem_cons] at h ⊢
        exact ⟨by omega, h.2⟩
  have hcons {r : Rune} (hzero : r.cells ≠ 0) {done : List Piece}
      (h : ∀ piece ∈ done.dropLast, 0 < piece.cells) :
      ∀ piece ∈ (Piece.mk [r] r.cells :: done).dropLast, 0 < piece.cells := by
    cases done with
    | nil => simp
    | cons piece before =>
      rw [List.dropLast_cons_cons, List.forall_mem_cons]
      exact ⟨Nat.pos_of_ne_zero hzero, h⟩
  have hfrom {done : List Piece} (h : ∀ piece ∈ done.dropLast, 0 < piece.cells)
      (last : Option Rune) : ∀ piece ∈ (piecesFrom done last t).tail, 0 < piece.cells := by
    fun_induction piecesFrom done last t with
    | case1 => simpa [List.tail_reverse] using h
    | case2 | case3 | case4 => simpa [List.tail_reverse] using hextend _ _ h
    | case5 _ _ _ _ _ hzero =>
      intro piece hpiece
      rw [List.tail_reverse] at hpiece
      exact hcons hzero h piece (List.mem_reverse.1 hpiece)
    | case6 _ _ _ _ _ _ ih => exact ih (hextend _ _ h)
    | case7 _ _ _ _ _ _ _ ih => exact ih (hextend _ _ h)
    | case8 _ _ _ _ _ _ _ _ ih => exact ih (hextend _ _ h)
    | case9 _ _ _ _ _ _ _ htakes ih =>
      refine ih (hcons ?_ h)
      simp only [Bool.or_eq_true, decide_eq_true_eq, not_or] at htakes
      exact htakes.2
  exact hfrom (by simp) none

theorem takePieces?_of_filled {room : Nat} {ps : List Piece} (hroom : 0 < room)
    (htail : ∀ piece ∈ ps.tail, 0 < piece.cells) (h : cellsOf ps = room) :
    takePieces? room ps = some (textOf ps) := by
  induction ps generalizing room with
  | nil => simp [cellsOf, totalWidth] at h; omega
  | cons piece rest ih =>
    rw [cellsOf_cons] at h
    rw [takePieces?, if_neg (by omega), if_pos (by omega)]
    cases rest with
    | nil =>
      have hleft : room - piece.cells = 0 := by simp [cellsOf, totalWidth] at h; omega
      rw [hleft]
      rfl
    | cons next more =>
      -- the next piece takes cells, so there is still room for it
      rw [List.tail_cons, List.forall_mem_cons] at htail
      have hnext : 0 < cellsOf (next :: more) := by
        rw [cellsOf_cons]
        omega
      rw [ih (by omega) htail.2 (by omega)]
      rfl

theorem filled_of_takePieces? {room : Nat} {ps : List Piece}
    (hps : ∀ piece ∈ ps, piece.IsProper) (h : takePieces? room ps = some (textOf ps)) :
    cellsOf ps = room := by
  fun_induction takePieces? room ps with
  | case1 => simp_all [cellsOf, totalWidth]
  | case2 => simp at h
  | case3 piece rest =>
    have hsome := (hps piece List.mem_cons_self).some
    simp [textOf, hsome] at h
  | case4 room piece rest hroom hfits ih =>
    obtain ⟨more, hmore, htext⟩ := Option.map_eq_some_iff.1 h
    obtain rfl : more = textOf rest := by simpa [textOf] using htext
    have := ih (List.forall_mem_cons.1 hps).2 hmore
    rw [cellsOf_cons]
    omega
  | case5 room piece rest hroom hfits =>
    -- the blank in place of a piece is its text only if the piece is a blank, and that would fit
    obtain ⟨hsome, hblank⟩ := hps piece List.mem_cons_self
    have htext : [⟨0x20⟩] = piece.text ++ textOf rest := by simpa [textOf] using h
    have hpiece : piece.text = [⟨0x20⟩] := by
      obtain ⟨r, more, hr⟩ := List.exists_cons_of_ne_nil hsome
      rw [hr, List.cons_append] at htext
      injection htext with hfirst hmore
      simp [hr, hfirst, (List.append_eq_nil_iff.1 hmore.symm).1]
    have := hblank hpiece
    omega

/-! ## Stretches -/

theorem ne_nil_of_mem_divide (seams : List Nat) (offset : Nat) {chunk : Text} (h : chunk ≠ [])
    (t : Text) : ∀ stretch ∈ Strip.divide seams offset chunk t, stretch ≠ [] := by
  induction t generalizing offset chunk with
  | nil => simpa [Strip.divide] using h
  | cons r rest ih =>
    unfold Strip.divide
    split
    · exact List.forall_mem_cons.2 ⟨by simpa using h, ih _ (List.cons_ne_nil _ _)⟩
    · exact ih _ (List.cons_ne_nil _ _)

theorem Strip.IsSeamed.ne_nil_of_mem_stretches {line : Strip} (h : line.IsSeamed)
    (hsome : line.text ≠ []) : ∀ stretch ∈ line.stretches, stretch ≠ [] := by
  obtain ⟨r, rest, htext⟩ := List.exists_cons_of_ne_nil hsome
  have hfirst : line.seams.contains 0 = false := by
    simpa using fun hseam => absurd (h 0 hseam).1 (Nat.lt_irrefl 0)
  have hstretches : line.stretches = Strip.divide line.seams 1 [r] rest := by
    rw [Strip.stretches, htext, Strip.divide, hfirst]
    rfl
  rw [hstretches]
  exact ne_nil_of_mem_divide _ _ (List.cons_ne_nil _ _) rest

theorem stretchCells_nil : stretchCells [] = 0 := rfl

theorem stretchCells_cons (t : Text) (rest : List Text) :
    stretchCells (t :: rest) = cells t + stretchCells rest := by
  rw [stretchCells, List.map_cons, totalWidth_cons]
  rfl

/-- Do all stretches of a line show in `width` cells? The last may take more if its pieces fill
what the others leave. -/
def StretchesFit (width : Nat) (stretches : List Text) : Prop :=
  stretchCells stretches ≤ width ∨ ∃ before last, stretches = before ++ [last] ∧
    stretchCells before < width ∧ stretchCells before + cellsOf (pieces last) = width

theorem takeCells_eq_self_iff {room : Nat} {t : Text} (hsome : t ≠ []) :
    takeCells room t = .ok t ↔ 0 < room ∧ cellsOf (pieces t) = room := by
  have htext : textOf (pieces t) = t := textOf_pieces t
  have htake : takeCells room t = .ok t ↔ takePieces? room (pieces t) = some t := by
    unfold takeCells
    cases takePieces? room (pieces t) <;> simp
  rw [htake]
  constructor
  · intro h
    have hfilled : cellsOf (pieces t) = room := by
      apply filled_of_takePieces? (isProper_of_mem_pieces t)
      rw [htext, h]
    refine ⟨Nat.pos_of_ne_zero ?_, hfilled⟩
    rintro rfl
    cases hpieces : pieces t with
    | nil => exact hsome (by simpa [hpieces, textOf, eq_comm] using htext)
    | cons piece rest =>
      rw [hpieces, takePieces?, if_pos rfl] at h
      exact hsome (Option.some.inj h).symm
  · rintro ⟨hroom, hfilled⟩
    rw [takePieces?_of_filled hroom (pos_of_mem_tail_pieces t) hfilled, htext]

theorem stretchCells_append_singleton (before : List Text) (last : Text) :
    stretchCells (before ++ [last]) = stretchCells before + cells last := by
  simp [stretchCells, totalWidth]

theorem takeStretches_append {room : Nat} {before : List Text} {last : Text}
    (hbefore : stretchCells before < room) (hover : room ≤ stretchCells before + cells last) :
    takeStretches room (before ++ [last]) =
      (fit (room - stretchCells before) last).map (before ++ [·]) := by
  induction before generalizing room with
  | nil =>
    rw [stretchCells_nil] at hover ⊢
    rw [List.nil_append, takeStretches, if_neg (by omega)]
    rfl
  | cons t rest ih =>
    rw [stretchCells_cons] at hbefore hover ⊢
    rw [List.cons_append, takeStretches, if_pos (by omega), ih (by omega) (by omega), Nat.sub_sub]
    cases fit (room - (cells t + stretchCells rest)) last <;> rfl

/-- Stretches that are too wide keep their text only if they are cut in the last, and that keeps
its text. -/
theorem exists_last_of_takeStretches {room : Nat} {stretches shown : List Text}
    (hsome : ∀ t ∈ stretches, t ≠ []) (hover : room < stretchCells stretches)
    (h : takeStretches room stretches = .ok shown) (hkept : shown.flatten = stretches.flatten) :
    ∃ before last, stretches = before ++ [last] ∧
      takeCells (room - stretchCells before) last = .ok last := by
  induction stretches generalizing room shown with
  | nil => exact absurd hover (Nat.not_lt_zero room)
  | cons t rest ih =>
    rw [stretchCells_cons] at hover
    have hrest := (List.forall_mem_cons.1 hsome).2
    unfold takeStretches at h
    split at h
    · next hfits =>
      obtain ⟨more, hmore, rfl⟩ := map_eq_ok_iff.1 h
      rw [List.flatten_cons, List.flatten_cons, List.append_cancel_left_eq] at hkept
      obtain ⟨before, last, rfl, hlast⟩ := ih hrest (by omega) hmore hkept
      refine ⟨t :: before, last, rfl, ?_⟩
      rwa [stretchCells_cons, ← Nat.sub_sub]
    · next hless =>
      obtain ⟨cut', hcut, rfl⟩ := map_eq_ok_iff.1 h
      rw [List.flatten_singleton, List.flatten_cons] at hkept
      subst hkept
      -- what is cut is no longer than before, so no stretch comes after it
      have hshort := (isCutOf_of_fit (Nat.le_of_not_lt hless) hcut).length_le
      rw [List.length_append] at hshort
      cases rest with
      | nil =>
        rw [stretchCells_nil] at hover
        rw [fit, if_neg (by omega), List.flatten_nil, List.append_nil] at hcut
        exact ⟨[], t, rfl, hcut⟩
      | cons next more =>
        have := List.length_pos_iff.2 (hrest next List.mem_cons_self)
        rw [List.flatten_cons, List.length_append] at hshort
        omega

theorem takeStretches_eq_flatten_iff {room : Nat} {stretches : List Text}
    (hsome : ∀ t ∈ stretches, t ≠ []) (hover : room < stretchCells stretches) :
    (takeStretches room stretches).map List.flatten = .ok stretches.flatten ↔
      ∃ before last, stretches = before ++ [last] ∧
        stretchCells before < room ∧ stretchCells before + cellsOf (pieces last) = room := by
  constructor
  · intro h
    obtain ⟨shown, hshown, hkept⟩ := map_eq_ok_iff.1 h
    obtain ⟨before, last, rfl, hlast⟩ := exists_last_of_takeStretches hsome hover hshown hkept
    rw [takeCells_eq_self_iff (hsome last (by simp))] at hlast
    exact ⟨before, last, rfl, by omega, by omega⟩
  · rintro ⟨before, last, rfl, hbefore, hfilled⟩
    rw [stretchCells_append_singleton] at hover
    have hlast : takeCells (room - stretchCells before) last = .ok last :=
      (takeCells_eq_self_iff (hsome last (by simp))).2 ⟨by omega, by omega⟩
    rw [takeStretches_append hbefore (by omega), fit, if_neg (by omega), hlast]
    rfl

theorem written_eq_text_iff {width : Nat} {line : Strip} (h : line.IsSeamed)
    (hsome : line.text ≠ []) :
    line.written width = .ok line.text ↔ StretchesFit width line.stretches := by
  unfold Strip.written cropStretches StretchesFit
  split
  · next hfits => simp [Except.map, flatten_stretches, hfits]
  · next hover =>
    rw [← flatten_stretches line,
      takeStretches_eq_flatten_iff (h.ne_nil_of_mem_stretches hsome) (Nat.lt_of_not_le hover)]
    exact (or_iff_right hover).symm

end Nomenclator.Console

import Mathlib.Data.List.Forall2
import Nomenclator.Console.Print
import Nomenclator.Proofs.Console.Measure

/-!
# Cropping

What does not fit is cut off, with a blank in place of a character that would be cut in two. So a
line is written as it is, or with fewer characters, or with a blank for one of them.
-/

namespace Nomenclator.Console

/-! ## Outcomes -/

theorem map_eq_ok_iff {α β ε : Type} {x : Except ε α} {f : α → β} {b : β} :
    x.map f = .ok b ↔ ∃ a, x = .ok a ∧ f a = b := by
  cases x <;> simp [Except.map]

theorem mapM_eq_ok_iff {α β ε : Type} {f : α → Except ε β} {xs : List α} {ys : List β} :
    xs.mapM f = .ok ys ↔ List.Forall₂ (fun x y => f x = .ok y) xs ys := by
  induction xs generalizing ys with
  | nil => simp [pure, Except.pure, eq_comm]
  | cons x rest ih =>
    rw [List.mapM_cons, List.forall₂_cons_left_iff]
    cases hx : f x with
    | error e => simp [bind, Except.bind]
    | ok y =>
      cases hrest : rest.mapM f <;>
        simp [← ih, hrest, bind, Except.bind, pure, Except.pure, eq_comm]

/-! ## Cuts -/

/-- Is it the beginning of a text, whose last character may have become a blank? -/
def IsCutOf (shown t : Text) : Prop :=
  shown <+: t ∨ ∃ kept r, shown = kept ++ [⟨0x20⟩] ∧ kept ++ [r] <+: t

namespace IsCutOf

variable {shown t : Text}

theorem refl (t : Text) : IsCutOf t t := .inl (List.prefix_refl t)

theorem append_right (h : IsCutOf shown t) (rest : Text) : IsCutOf shown (t ++ rest) := by
  rcases h with h | ⟨kept, r, hshown, h⟩
  · exact .inl (h.trans (List.prefix_append t rest))
  · exact .inr ⟨kept, r, hshown, h.trans (List.prefix_append t rest)⟩

theorem append_left (before : Text) (h : IsCutOf shown t) :
    IsCutOf (before ++ shown) (before ++ t) := by
  rcases h with h | ⟨kept, r, rfl, h⟩
  · exact .inl ((List.prefix_append_right_inj before).2 h)
  · refine .inr ⟨before ++ kept, r, (List.append_assoc _ _ _).symm, ?_⟩
    rw [List.append_assoc]
    exact (List.prefix_append_right_inj before).2 h

theorem length_le (h : IsCutOf shown t) : shown.length ≤ t.length := by
  rcases h with h | ⟨kept, r, rfl, h⟩
  · exact h.length_le
  · simpa using h.length_le

theorem count_le (h : IsCutOf shown t) {r : Rune} (hr : r ≠ ⟨0x20⟩) :
    shown.count r ≤ t.count r := by
  rcases h with h | ⟨kept, x, rfl, h⟩
  · exact h.sublist.count_le r
  · have hkept := (List.prefix_append kept [x]).trans h
    rw [List.count_append, List.count_singleton, if_neg (by simpa using hr.symm)]
    exact hkept.sublist.count_le r

end IsCutOf

/-! ## Pieces -/

/-- A piece has text, and a blank by itself takes no more than a cell. -/
structure Piece.IsProper (piece : Piece) : Prop where
  some : piece.text ≠ []
  blank : piece.text = [⟨0x20⟩] → piece.cells ≤ 1

theorem Piece.IsProper.single (r : Rune) : Piece.IsProper ⟨[r], r.cells⟩ where
  some := List.cons_ne_nil _ _
  blank := by
    intro hblank
    obtain rfl : r = ⟨0x20⟩ := by simpa using hblank
    decide

theorem Piece.IsProper.append {piece : Piece} (h : piece.IsProper) {more : Text} (hmore : more ≠ [])
    (n : Nat) : Piece.IsProper ⟨piece.text ++ more, piece.cells + n⟩ where
  some := by simp [hmore]
  blank := by
    intro hblank
    have hlength := congrArg List.length hblank
    have hsome := List.length_pos_iff.2 h.some
    have hadded := List.length_pos_iff.2 hmore
    rw [List.length_append, List.length_singleton] at hlength
    omega

theorem isProper_of_mem_piecesFrom {done : List Piece} (h : ∀ piece ∈ done, piece.IsProper)
    (last : Option Rune) (t : Text) : ∀ piece ∈ piecesFrom done last t, piece.IsProper := by
  -- where there is no piece to add to, what is added begins one, and it takes a cell at most
  have hextend {done : List Piece} (hdone : ∀ piece ∈ done, piece.IsProper) (r : Rune)
      (more : Text) {n : Nat} (hn : n ≤ 1) :
      ∀ piece ∈ extendLast (r :: more) n done, piece.IsProper := by
    cases done with
    | nil => exact List.forall_mem_singleton.2 ⟨List.cons_ne_nil _ _, fun _ => hn⟩
    | cons piece before =>
      obtain ⟨hpiece, hbefore⟩ := List.forall_mem_cons.1 hdone
      exact List.forall_mem_cons.2 ⟨hpiece.append (List.cons_ne_nil _ _) n, hbefore⟩
  fun_induction piecesFrom done last t with
  | case1 => simpa using h
  | case2 | case4 => simpa using hextend h _ [] (Nat.zero_le 1)
  | case3 => simpa using hextend h _ [] (by split <;> omega)
  | case5 =>
    intro piece hpiece
    exact List.forall_mem_cons.2 ⟨.single _, h⟩ piece (List.mem_reverse.1 hpiece)
  | case6 _ _ _ _ _ _ ih => exact ih (hextend h _ _ (Nat.zero_le 1))
  | case7 _ _ _ _ _ _ _ ih => exact ih (hextend h _ _ (Nat.le_refl 1))
  | case8 _ _ _ _ _ _ _ _ ih => exact ih (hextend h _ _ (Nat.zero_le 1))
  | case9 _ _ _ _ _ _ _ _ ih => exact ih (List.forall_mem_cons.2 ⟨.single _, h⟩)

theorem isProper_of_mem_pieces (t : Text) : ∀ piece ∈ pieces t, piece.IsProper :=
  isProper_of_mem_piecesFrom (by simp) none t

/-! ## Texts -/

theorem isCutOf_of_takePieces? {room : Nat} {ps : List Piece} {taken : Text}
    (hps : ∀ piece ∈ ps, piece.IsProper) (h : takePieces? room ps = some taken) :
    IsCutOf taken (textOf ps) := by
  fun_induction takePieces? room ps generalizing taken with
  | case1 => exact .inl (by simp_all)
  | case2 => simp at h
  | case3 => exact .inl (by simp_all)
  | case4 room piece rest hroom hfits ih =>
    obtain ⟨more, hmore, rfl⟩ := Option.map_eq_some_iff.1 h
    exact (ih (List.forall_mem_cons.1 hps).2 hmore).append_left piece.text
  | case5 room piece rest hroom hfits =>
    -- the blank stands for the first character of the piece
    obtain rfl := Option.some.inj h
    obtain ⟨r, more, htext⟩ := List.exists_cons_of_ne_nil (List.forall_mem_cons.1 hps).1.some
    refine .inr ⟨[], r, rfl, more ++ textOf rest, ?_⟩
    simp [textOf, htext]

theorem isCutOf_of_takeCells {room : Nat} {t taken : Text} (h : takeCells room t = .ok taken) :
    IsCutOf taken t := by
  unfold takeCells at h
  split at h
  · next htake =>
    obtain rfl := Except.ok.inj h
    exact textOf_pieces t ▸ isCutOf_of_takePieces? (isProper_of_mem_pieces t) htake
  · simp at h

theorem isCutOf_of_fit {room : Nat} {t shown : Text} (hroom : room ≤ cells t)
    (h : fit room t = .ok shown) : IsCutOf shown t := by
  unfold fit at h
  dsimp only at h
  split at h
  · next hsize =>
    obtain rfl := Except.ok.inj h
    rw [Nat.sub_eq_zero_of_le hroom]
    exact .inl (by simp [Text.blanks])
  · exact isCutOf_of_takeCells h

/-! ## Stretches -/

theorem flatten_divide (seams : List Nat) (offset : Nat) (chunk t : Text) :
    (Strip.divide seams offset chunk t).flatten = chunk.reverse ++ t := by
  induction t generalizing offset chunk with
  | nil => simp [Strip.divide]
  | cons r rest ih =>
    unfold Strip.divide
    split
    · simp [ih]
    · simp [ih]

theorem flatten_stretches (line : Strip) : line.stretches.flatten = line.text :=
  flatten_divide line.seams 0 [] line.text

theorem isCutOf_of_takeStretches {room : Nat} {stretches shown : List Text}
    (h : takeStretches room stretches = .ok shown) :
    IsCutOf shown.flatten stretches.flatten := by
  fun_induction takeStretches room stretches generalizing shown with
  | case1 =>
    obtain rfl := Except.ok.inj h
    exact .refl _
  | case2 room t rest hless ih =>
    obtain ⟨more, hmore, rfl⟩ := map_eq_ok_iff.1 h
    exact (ih hmore).append_left t
  | case3 room t rest hless =>
    obtain ⟨cut', hcut, rfl⟩ := map_eq_ok_iff.1 h
    rw [List.flatten_cons, List.flatten_cons, List.flatten_nil, List.append_nil]
    exact (isCutOf_of_fit (Nat.le_of_not_lt hless) hcut).append_right _

theorem isCutOf_of_cropStretches {room : Nat} {stretches shown : List Text}
    (h : cropStretches room stretches = .ok shown) :
    IsCutOf shown.flatten stretches.flatten := by
  unfold cropStretches at h
  split at h
  · obtain rfl := Except.ok.inj h
    exact .refl _
  · exact isCutOf_of_takeStretches h

/-- A line as a console of a given width writes it. -/
def Strip.written (width : Nat) (line : Strip) : Except CutError Text :=
  (cropStretches width line.stretches).map List.flatten

theorem isCutOf_of_written {width : Nat} {line : Strip} {shown : Text}
    (h : line.written width = .ok shown) : IsCutOf shown line.text := by
  obtain ⟨stretches, hcrop, rfl⟩ := map_eq_ok_iff.1 h
  exact flatten_stretches line ▸ isCutOf_of_cropStretches hcrop

end Nomenclator.Console

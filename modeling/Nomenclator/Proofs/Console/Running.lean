import Nomenclator.Proofs.Console.Fitting

/-!
# What setting adds

Setting text moves, pads and cuts it. Whatever its words, its tabs and its lines: blanks are all
that it adds, and it loses no line.
-/

namespace Nomenclator.Console

variable {r : Rune}

/-! ## Characters -/

theorem count_blanks (hr : r ≠ ⟨0x20⟩) (n : Nat) : (Text.blanks n).count r = 0 :=
  List.count_eq_zero_of_not_mem fun hmem => hr (List.eq_of_mem_replicate hmem)

theorem count_expandTabsFrom_le (hr : r ≠ ⟨0x20⟩) (step column : Nat) (chunk t : Text) :
    (expandTabsFrom step column chunk t).count r ≤ chunk.count r + t.count r := by
  induction t generalizing column chunk with
  | nil => exact Nat.le_add_right _ _
  | cons c rest ih =>
    unfold expandTabsFrom
    split
    · dsimp only
      rw [List.count_append, List.count_append, count_blanks hr]
      have hrest := ih (column + cells (chunk ++ [⟨0x20⟩]) +
        (step - (column + cells (chunk ++ [⟨0x20⟩])) % step) % step) []
      have hcons := List.count_le_count_cons (a := r) (b := c) (l := rest)
      rw [List.count_nil] at hrest
      omega
    · have hrest := ih column (chunk ++ [c])
      rw [List.count_append] at hrest
      rw [← List.singleton_append (l := rest), List.count_append]
      omega

theorem count_expandTabs_le (hr : r ≠ ⟨0x20⟩) (line : Strip) :
    (expandTabs line).text.count r ≤ line.text.count r := by
  unfold expandTabs
  dsimp only
  split
  · simpa using count_expandTabsFrom_le hr tabStep 0 [] line.text
  · exact Nat.le_refl _

theorem count_foldPieces_le (room : Nat) (line : List Piece) (used : Nat) (ps : List Piece) :
    (foldPieces room line used ps).flatten.count r ≤
      (textOf line.reverse).count r + (textOf ps).count r := by
  induction ps generalizing line used with
  | nil =>
    unfold foldPieces
    split <;> simp
  | cons piece rest ih =>
    have hpiece : (textOf (piece :: rest)).count r = piece.text.count r + (textOf rest).count r :=
      List.count_append
    unfold foldPieces
    split
    · have hrest := ih [piece] piece.cells
      have hone : textOf [piece].reverse = piece.text := by simp [textOf]
      rw [hone] at hrest
      rw [List.flatten_cons, List.count_append]
      omega
    · have hrest := ih (piece :: line) (used + piece.cells)
      have hmore : textOf (piece :: line).reverse = textOf line.reverse ++ piece.text := by
        simp [textOf]
      rw [hmore, List.count_append] at hrest
      omega

theorem count_fold_le (room : Nat) (t : Text) : (fold room t).flatten.count r ≤ t.count r := by
  have h := count_foldPieces_le (r := r) room [] 0 (pieces t)
  rw [textOf_pieces] at h
  unfold fold
  simpa [textOf] using h

namespace Setting

theorem flatten_lines (s : Setting) : s.lines.flatten = s.done.reverse.flatten ++ s.line := by
  simp [lines]

theorem count_breakBefore (s : Setting) (piece : Text) (used : Nat) :
    (s.breakBefore piece used).lines.flatten.count r = s.lines.flatten.count r + piece.count r := by
  unfold breakBefore
  split
  · next hnone =>
    simp only [Bool.and_eq_true, List.isEmpty_iff] at hnone
    simp [flatten_lines, hnone.1, hnone.2]
  · simp [flatten_lines, Nat.add_assoc]

theorem count_foldl_breakBefore (s : Setting) (pieces : List Text) :
    (pieces.foldl (fun s piece => s.breakBefore piece (cells piece)) s).lines.flatten.count r =
      s.lines.flatten.count r + pieces.flatten.count r := by
  induction pieces generalizing s with
  | nil => simp
  | cons piece rest ih =>
    rw [List.foldl_cons, ih, count_breakBefore, List.flatten_cons, List.count_append, Nat.add_assoc]

theorem count_add_le (width : Nat) (folds : Bool) (s : Setting) (word : Text) :
    (s.add width folds word).lines.flatten.count r ≤ s.lines.flatten.count r + word.count r := by
  have happend (used : Nat) : (Setting.mk s.done (s.line ++ word) used).lines.flatten.count r =
      s.lines.flatten.count r + word.count r := by
    simp [flatten_lines, Nat.add_assoc]
  unfold add
  dsimp only
  split
  · exact Nat.le_of_eq (happend _)
  · split
    · exact Nat.le_of_eq (count_breakBefore s word _)
    · split
      · split
        · exact Nat.le_of_eq (happend _)
        · have hfold := count_fold_le (r := r) width word
          rw [count_foldl_breakBefore]
          omega
      · exact Nat.le_of_eq (count_breakBefore s word _)

theorem count_foldl_add_le (width : Nat) (folds : Bool) (s : Setting) (ws : List Text) :
    (ws.foldl (add width folds) s).lines.flatten.count r ≤
      s.lines.flatten.count r + ws.flatten.count r := by
  induction ws generalizing s with
  | nil => simp
  | cons word rest ih =>
    have hword := count_add_le (r := r) width folds s word
    have hrest := ih (s.add width folds word)
    rw [List.foldl_cons, List.flatten_cons, List.count_append]
    omega

end Setting

theorem count_breakLine_le (width : Nat) (folds : Bool) (t : Text) :
    (breakLine width folds t).flatten.count r ≤ t.count r := by
  unfold breakLine
  split
  · simp
  · next hwords =>
    have hset := Setting.count_foldl_add_le (r := r) width folds .empty (words t)
    rw [(words_spec hwords).1] at hset
    simpa [Setting.empty, Setting.lines] using hset

theorem breakLine_ne_nil (width : Nat) (folds : Bool) (t : Text) :
    breakLine width folds t ≠ [] := by
  unfold breakLine
  split <;> simp [Setting.lines]

/-! ## Lines -/

theorem count_flatten_le {xs ys : List Text}
    (h : List.Forall₂ (fun x y => y.count r ≤ x.count r) xs ys) :
    ys.flatten.count r ≤ xs.flatten.count r := by
  induction h with
  | nil => exact Nat.le_refl _
  | cons hfirst _ ih =>
    rw [List.flatten_cons, List.flatten_cons, List.count_append, List.count_append]
    exact Nat.add_le_add hfirst ih

theorem isCutOf_of_cut {width : Nat} {line shown : Strip} (h : cut .fold width line = .ok shown) :
    IsCutOf shown.text line.text := by
  unfold cut at h
  split at h
  · injection h with h
    exact h ▸ .refl _
  · obtain ⟨taken, htaken, rfl⟩ := map_eq_ok_iff.1 h
    exact isCutOf_of_takeCells htaken

theorem setLine_spec {width : Nat} {line : Strip} {lines : List Strip}
    (h : setLine .natural .fold width line = .ok lines) :
    lines ≠ [] ∧
      (r ≠ ⟨0x20⟩ → (lines.map Strip.text).flatten.count r ≤ line.text.count r) := by
  unfold setLine at h
  dsimp only at h
  have haligned (strips : List Strip) :
      strips.mapM (align .natural .fold width) = .ok strips := by
    rw [mapM_eq_ok_iff, List.forall₂_same]
    exact fun _ _ => rfl
  rw [haligned] at h
  generalize (Overflow.fold == Overflow.fold) = folds at h
  have hcuts := List.forall₂_map_left_iff.1 (mapM_eq_ok_iff.1 h)
  have htexts := map_text_ofParts 0 0 (expandTabs line).seams
    (breakLine width folds (expandTabs line).text)
  constructor
  · rintro rfl
    rw [List.forall₂_nil_right_iff.1 hcuts] at htexts
    exact breakLine_ne_nil _ _ _ htexts.symm
  · intro hr
    have hbroken := count_breakLine_le (r := r) width folds (expandTabs line).text
    have hexpanded := count_expandTabs_le hr line
    have hkept (strip shown : Strip) (hcut : cut .fold width (dropExcess width strip) = .ok shown) :
        shown.text.count r ≤ strip.text.count r :=
      Nat.le_trans ((isCutOf_of_cut hcut).count_le hr)
        ((isPrefix_dropExcess width strip).sublist.count_le r)
    have hcount := count_flatten_le <|
      List.forall₂_map_left_iff.2 <| List.forall₂_map_right_iff.2 <| hcuts.imp hkept
    rw [htexts] at hcount
    omega

theorem length_le_length_flatten {α β : Type} {xs : List α} {groups : List (List β)}
    (h : List.Forall₂ (fun _ group => group ≠ []) xs groups) :
    xs.length ≤ groups.flatten.length := by
  induction h with
  | nil => exact Nat.le_refl _
  | cons hgroup _ ih =>
    have hlength := List.length_pos_iff.2 hgroup
    rw [List.flatten_cons, List.length_append, List.length_cons]
    omega

/-- Running text is shown in as many lines as it has or more, and those hold no more of a
character. -/
theorem setRunning_spec {width : Nat} {t : Text} {styled : List Span} {lines : List Text}
    (h : setRunning width t styled = .ok lines) :
    t.lines.length ≤ lines.length ∧
      (r ≠ ⟨0x20⟩ → lines.flatten.count r ≤ t.lines.flatten.count r) := by
  unfold setRunning setText at h
  dsimp only at h
  generalize hstrips : Strip.ofParts 1 0 _ t.lines = strips at h
  have htexts : strips.map Strip.text = t.lines := hstrips ▸ map_text_ofParts _ _ _ _
  cases hgroups : strips.mapM (setLine .natural .fold width) with
  | error e =>
    rw [hgroups] at h
    cases h
  | ok groups =>
    rw [hgroups] at h
    -- each line is set as a group of lines, and those of all groups are cut
    have hset := mapM_eq_ok_iff.1 hgroups
    have hwritten := mapM_eq_ok_iff.1
      (show groups.flatten.mapM (Strip.written width) = .ok lines from h)
    constructor
    · have hlength := length_le_length_flatten <| hset.imp fun line group hgroup =>
        (setLine_spec (r := r) hgroup).1
      rwa [← htexts, List.length_map, ← hwritten.length_eq]
    · intro hr
      have hline (line : Strip) (shown : Text) (hshown : line.written width = .ok shown) :
          shown.count r ≤ line.text.count r := (isCutOf_of_written hshown).count_le hr
      have hgroup (line : Strip) (group : List Strip)
          (h : setLine .natural .fold width line = .ok group) :
          (group.map Strip.text).flatten.count r ≤ line.text.count r := (setLine_spec h).2 hr
      have hlines := count_flatten_le <| List.forall₂_map_left_iff.2 <| hwritten.imp hline
      have hgroups := count_flatten_le <|
        List.forall₂_map_left_iff.2 <| List.forall₂_map_right_iff.2 <| hset.imp hgroup
      have hflatten : (groups.flatten.map Strip.text).flatten =
          (groups.map fun group => (group.map Strip.text).flatten).flatten := by
        rw [List.map_flatten, List.flatten_flatten, List.map_map]
        rfl
      rw [hflatten] at hlines
      rw [htexts] at hgroups
      omega

/-! ## What is shown -/

theorem count_eq_zero_of_line {line : Text} (h : ∀ r ∈ line, r.code ≠ 0x0A) :
    line.count ⟨0x0A⟩ = 0 :=
  List.count_eq_zero_of_not_mem fun hmem => h _ hmem rfl

theorem length_lines (t : Text) : t.lines.length = t.count ⟨0x0A⟩ + 1 := by
  induction t using Text.lines_induction with
  | last line hline => rw [Text.lines_of_not_mem hline, count_eq_zero_of_line hline]; rfl
  | line line rest hline ih =>
    rw [Text.lines_append hline, List.count_append, count_eq_zero_of_line hline,
      List.count_cons_self, List.length_cons, ih, Nat.zero_add]

theorem count_lines (t : Text) :
    t.lines.flatten.count r = if r = ⟨0x0A⟩ then 0 else t.count r := by
  induction t using Text.lines_induction with
  | last line hline =>
    rw [Text.lines_of_not_mem hline, List.flatten_singleton]
    split
    · next hr => rw [hr, count_eq_zero_of_line hline]
    · rfl
  | line line rest hline ih =>
    rw [Text.lines_append hline, List.flatten_cons, List.count_append, ih]
    split
    · next hr => rw [hr, count_eq_zero_of_line hline]
    · next hr => rw [List.count_append, List.count_cons_of_ne (Ne.symm hr)]

theorem joinLines_lines (t : Text) : joinLines t.lines = t := by
  induction t using Text.lines_induction with
  | last line hline => rw [Text.lines_of_not_mem hline]; rfl
  | line line rest hline ih =>
    have hsome : rest.lines ≠ [] := List.ne_nil_of_length_pos (by rw [length_lines]; omega)
    rw [Text.lines_append hline, joinLines, Text.join_cons _ _ hsome, List.append_assoc]
    exact congrArg (line ++ ⟨0x0A⟩ :: ·) ih

theorem lines_joinLines {width : Nat} {t : Text} {styled : List Span} {lines : List Text}
    (h : setRunning width t styled = .ok lines) : (joinLines lines).lines = lines := by
  obtain ⟨hlength, hcount⟩ := setRunning_spec (r := ⟨0x0A⟩) h
  have hnone := hcount (by decide)
  rw [count_lines, if_pos rfl, Nat.le_zero, List.count_eq_zero] at hnone
  apply Text.lines_join
  · rintro rfl
    rw [length_lines, List.length_nil] at hlength
    omega
  · rintro line hline ⟨code⟩ hmem rfl
    exact hnone (List.mem_flatten_of_mem hline hmem)

theorem count_joinLines {width : Nat} {t : Text} {styled : List Span} {lines : List Text}
    (h : setRunning width t styled = .ok lines) :
    t.count ⟨0x0A⟩ ≤ (joinLines lines).count ⟨0x0A⟩ ∧
      (r ≠ ⟨0x20⟩ → r ≠ ⟨0x0A⟩ → (joinLines lines).count r ≤ t.count r) := by
  obtain ⟨hlength, hcount⟩ := setRunning_spec (r := r) h
  have hshown := length_lines (joinLines lines)
  rw [lines_joinLines h] at hshown
  rw [length_lines] at hlength
  refine ⟨by omega, fun hblank hfeed => ?_⟩
  have hlines := count_lines (r := r) (joinLines lines)
  have htext := hcount hblank
  rw [lines_joinLines h, if_neg hfeed] at hlines
  rwa [count_lines, if_neg hfeed, hlines] at htext

end Nomenclator.Console

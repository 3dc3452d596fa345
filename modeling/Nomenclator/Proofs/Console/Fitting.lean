import Nomenclator.Proofs.Console.Cropping

/-!
# Lines that fit

A line that fits is set as one line. All that it can lose are blanks at its end, and those only if
it has more characters than there are cells.
-/

namespace Nomenclator.Console

/-! ## Words -/

theorem drop_length_takeWhile (p : Rune → Bool) (t : Text) :
    t.drop (t.takeWhile p).length = t.dropWhile p := by
  have hsplit := List.takeWhile_append_dropWhile (p := p) (l := t)
  calc t.drop (t.takeWhile p).length
      = (t.takeWhile p ++ t.dropWhile p).drop (t.takeWhile p).length := by rw [hsplit]
    _ = t.dropWhile p := List.drop_left

theorem words_of_blank {s : Text} (h : s.dropWhile Rune.isBlank = []) : words s = [] := by
  cases s with
  | nil => unfold words; rfl
  | cons r tail =>
    unfold words
    dsimp only
    rw [drop_length_takeWhile, h]
    rfl

theorem words_eq {s : Text} (h : s.dropWhile Rune.isBlank ≠ []) :
    words s =
      (s.takeWhile Rune.isBlank ++ (s.dropWhile Rune.isBlank).takeWhile (fun c => !c.isBlank) ++
          ((s.dropWhile Rune.isBlank).dropWhile fun c => !c.isBlank).takeWhile Rune.isBlank) ::
        words (((s.dropWhile Rune.isBlank).dropWhile fun c => !c.isBlank).dropWhile
          Rune.isBlank) := by
  cases s with
  | nil => exact absurd rfl h
  | cons r tail =>
    have hword :
        0 < (((r :: tail).dropWhile Rune.isBlank).takeWhile fun c => !c.isBlank).length := by
      have hhead := List.head?_dropWhile_not Rune.isBlank (r :: tail)
      obtain ⟨first, more, hfirst⟩ := List.exists_cons_of_ne_nil h
      rw [hfirst] at hhead ⊢
      rw [List.takeWhile_cons_of_pos (by simpa using hhead)]
      exact Nat.succ_pos _
    rw [words.eq_def]
    dsimp only
    rw [← List.drop_drop, drop_length_takeWhile, drop_length_takeWhile,
      if_neg (by simpa using List.ne_nil_of_length_pos hword), ← List.drop_succ_cons,
      Nat.sub_add_cancel (by omega), ← List.drop_drop, ← List.drop_drop, drop_length_takeWhile,
      drop_length_takeWhile, drop_length_takeWhile]

theorem words_cases {s : Text} (h : words s ≠ []) :
    ∃ word rest, s = word ++ rest ∧ words s = word :: words rest ∧
      (rest ≠ [] → words rest ≠ [] ∧ ∃ r ∈ word.getLast?, r.isBlank = true) := by
  have hstart : s.dropWhile Rune.isBlank ≠ [] := fun hnone => h (words_of_blank hnone)
  refine ⟨_, _, ?_, words_eq hstart, fun hrest => ?_⟩
  · simp only [List.append_assoc, List.takeWhile_append_dropWhile]
  have hstop := List.head?_dropWhile_not (fun c => !c.isBlank) (s.dropWhile Rune.isBlank)
  generalize (s.dropWhile Rune.isBlank).dropWhile (fun c => !c.isBlank) = gap at hrest hstop ⊢
  have hnext := List.head?_dropWhile_not Rune.isBlank gap
  have hgap := List.takeWhile_append_dropWhile (p := Rune.isBlank) (l := gap)
  obtain ⟨next, more, hmore⟩ := List.exists_cons_of_ne_nil hrest
  have hnot : next.isBlank = false := by simpa [hmore] using hnext
  have hafter : gap.takeWhile Rune.isBlank ≠ [] := by
    intro hnone
    rw [hnone, List.nil_append, hmore] at hgap
    simp [← hgap, hnot] at hstop
  constructor
  · rw [hmore, words_eq (by rw [List.dropWhile_cons_of_neg (by simp [hnot])]
                            exact List.cons_ne_nil _ _)]
    exact List.cons_ne_nil _ _
  · refine ⟨(gap.takeWhile Rune.isBlank).getLast hafter, ?_, ?_⟩
    · rw [List.getLast?_append, List.getLast?_eq_some_getLast hafter]
      rfl
    · exact List.mem_takeWhile_imp (List.getLast_mem hafter)

/-- The words of a text that has some are all of it, and each but the last ends in a blank. -/
theorem words_spec {s : Text} (h : words s ≠ []) :
    (words s).flatten = s ∧
      ∀ word ∈ (words s).dropLast, ∃ r ∈ word.getLast?, r.isBlank = true := by
  obtain ⟨word, rest, hs, hwords, hmore⟩ := words_cases h
  rw [hwords, List.flatten_cons]
  by_cases hrest : rest = []
  · subst hrest
    simp [words_of_blank List.dropWhile_nil, hs]
  · obtain ⟨hnext, last, hlast, hblank⟩ := hmore hrest
    have hless : rest.length < s.length := by
      have hlength := List.length_pos_of_mem (List.mem_of_getLast? hlast)
      rw [hs, List.length_append]
      omega
    obtain ⟨hflatten, hends⟩ := words_spec hnext
    rw [hflatten, List.dropLast_cons_of_ne_nil hnext]
    exact ⟨hs.symm, List.forall_mem_cons.2 ⟨⟨last, hlast, hblank⟩, hends⟩⟩
termination_by s.length

/-! ## Setting -/

theorem add_of_fits {width : Nat} {folds : Bool} {line word : Text} {used : Nat}
    (h : used + cells word ≤ width) :
    Setting.add width folds ⟨[], line, used⟩ word = ⟨[], line ++ word, used + cells word⟩ := by
  have hstrip : cells word.stripEnd ≤ cells word :=
    cells_mono (Text.isPrefix_dropEndWhile _ _)
  unfold Setting.add
  dsimp only
  rw [if_pos (by omega)]

theorem foldl_add_of_fits {width : Nat} {folds : Bool} {ws : List Text} {line : Text} {used : Nat}
    (h : used + totalWidth (ws.map cells) ≤ width) :
    (ws.foldl (Setting.add width folds) ⟨[], line, used⟩).lines = [line ++ ws.flatten] := by
  induction ws generalizing line used with
  | nil => simp [Setting.lines]
  | cons word rest ih =>
    rw [List.map_cons, totalWidth_cons] at h
    rw [List.foldl_cons, add_of_fits (by omega), ih (by omega), List.flatten_cons,
      List.append_assoc]

theorem breakLine_of_fits {width : Nat} {t : Text} (h : cells t ≤ width) (folds : Bool) :
    breakLine width folds t = [t] := by
  unfold breakLine
  split
  · rfl
  · next hwords =>
    obtain ⟨hflatten, hends⟩ := words_spec (s := t) hwords
    -- a word ends in a blank, so it can be measured apart from the next one
    have hjoins : ∀ word ∈ (words t).dropLast, word.getLast? ≠ some joiner := by
      intro word hword hlast
      obtain ⟨r, hr, hblank⟩ := hends word hword
      obtain rfl : r = joiner := Option.some.inj (hr.symm.trans hlast)
      exact absurd hblank (by decide)
    have hcells := totalWidth_le hjoins
    rw [hflatten] at hcells
    have hset : ((words t).foldl (Setting.add width folds) Setting.empty).lines =
        [[] ++ (words t).flatten] := foldl_add_of_fits (by omega)
    rwa [hflatten] at hset

/-! ## Seams -/

/-- Seams lie between the first character of a line and the last. -/
def Strip.IsSeamed (line : Strip) : Prop := ∀ n ∈ line.seams, 0 < n ∧ n < line.text.length

theorem mem_seamsWithin {start length : Nat} {seams : List Nat} :
    ∀ n ∈ seamsWithin start length seams, 0 < n ∧ n < length := by
  intro n hn
  obtain ⟨m, -, hm⟩ := List.mem_filterMap.1 hn
  split at hm
  · injection hm with hm
    omega
  · simp at hm

theorem isSeamed_of_mem_ofParts {gap start : Nat} {seams : List Nat} {parts : List Text} :
    ∀ line ∈ Strip.ofParts gap start seams parts, line.IsSeamed := by
  induction parts generalizing start with
  | nil => simp [Strip.ofParts]
  | cons t rest ih => exact List.forall_mem_cons.2 ⟨mem_seamsWithin, ih⟩

theorem seamsWithin_of_isSeamed {line : Strip} (h : line.IsSeamed) :
    seamsWithin 0 line.text.length line.seams = line.seams := by
  unfold seamsWithin
  conv_rhs => rw [← List.filterMap_some (l := line.seams)]
  apply List.filterMap_congr
  intro n hn
  rw [if_pos (by simpa using h n hn)]
  rfl

theorem withText_of_isSeamed {line : Strip} (h : line.IsSeamed) :
    line.withText line.text = line := by
  unfold Strip.withText
  rw [List.filter_eq_self.2 fun n hn => by simpa using (h n hn).2]

/-! ## Lines -/

theorem expandTabs_of_not_mem {line : Strip} (h : ∀ r ∈ line.text, r.code ≠ 0x09) :
    expandTabs line = line := by
  unfold expandTabs
  dsimp only
  rw [if_neg (by simpa using h)]

theorem isPrefix_dropExcess (width : Nat) (line : Strip) :
    (dropExcess width line).text <+: line.text := List.take_prefix _ _

theorem setLine_of_fits {width : Nat} {line : Strip} (hfits : cells line.text ≤ width)
    (htabs : ∀ r ∈ line.text, r.code ≠ 0x09) (hseams : line.IsSeamed) :
    setLine .natural .fold width line = .ok [dropExcess width line] := by
  unfold setLine
  dsimp only
  rw [expandTabs_of_not_mem htabs, breakLine_of_fits hfits, Strip.ofParts, Strip.ofParts,
    seamsWithin_of_isSeamed hseams]
  have hcut : cut .fold width (dropExcess width line) = .ok (dropExcess width line) :=
    if_pos (Nat.le_trans (cells_mono (isPrefix_dropExcess width line)) hfits)
  simp [align, hcut, bind, Except.bind, pure, Except.pure]

/-- The lines of running text, each with the places where what looks like a value begins or ends. -/
def runningStrips (t : Text) : List Strip :=
  Strip.ofParts 1 0 (if measuresEvenly t then [] else seamsOf t (Highlight.spans t)) t.lines

theorem map_text_ofParts (gap start : Nat) (seams : List Nat) (parts : List Text) :
    (Strip.ofParts gap start seams parts).map Strip.text = parts := by
  induction parts generalizing start with
  | nil => rfl
  | cons t rest ih => exact congrArg (t :: ·) (ih _)

theorem setRunning_of_fits {width : Nat} {t : Text} (hfits : ∀ line ∈ t.lines, cells line ≤ width)
    (htabs : ∀ r ∈ t, r.code ≠ 0x09) :
    setRunning width t [] =
      ((runningStrips t).map (dropExcess width)).mapM (Strip.written width) := by
  have hset : (runningStrips t).mapM (setLine .natural .fold width) =
      .ok ((runningStrips t).map fun line => [dropExcess width line]) := by
    rw [mapM_eq_ok_iff, List.forall₂_map_right_iff, List.forall₂_same]
    intro line hline
    have htext := text_of_mem_ofParts line hline
    refine setLine_of_fits (hfits _ htext) ?_ (isSeamed_of_mem_ofParts line hline)
    exact fun r hr => htabs r (mem_of_mem_piecesAt _ htext hr)
  unfold setRunning setText
  rw [List.append_nil]
  change (((runningStrips t).mapM (setLine .natural .fold width)).map List.flatten >>= _) = _
  have hflatten : ((runningStrips t).map fun line => [dropExcess width line]).flatten =
      (runningStrips t).map (dropExcess width) := List.map_eq_flatMap.symm
  rw [hset, Except.map, hflatten]
  rfl

/-! ## What is lost -/

theorem dropExcess_of_length_le {width : Nat} {line : Strip} (h : line.IsSeamed)
    (hlength : line.text.length ≤ (dropExcess width line).text.length) :
    dropExcess width line = line := by
  have htext : (dropExcess width line).text = line.text :=
    (isPrefix_dropExcess width line).eq_of_length_le hlength
  calc dropExcess width line
      = line.withText (dropExcess width line).text := rfl
    _ = line := by rw [htext, withText_of_isSeamed h]

theorem blankTail_eq_zero_iff {t : Text} :
    (t.reverse.takeWhile Rune.isBlank).length = 0 ↔ ∀ r ∈ t.getLast?, r.isBlank = false := by
  rw [← List.head?_reverse]
  cases t.reverse with
  | nil => simp
  | cons r rest =>
    cases hr : r.isBlank <;> simp [hr]

theorem dropExcess_eq_self_iff {width : Nat} {line : Strip} (h : line.IsSeamed) :
    dropExcess width line = line ↔
      (width < line.text.length → ∀ r ∈ line.text.getLast?, r.isBlank = false) := by
  rw [← blankTail_eq_zero_iff]
  have hblanks : line.text.reverse.takeWhile Rune.isBlank <+: line.text.reverse :=
    List.takeWhile_prefix _
  have htail := hblanks.length_le
  rw [List.length_reverse] at htail
  constructor
  · intro hkept hwide
    have hlength := congrArg (fun strip => strip.text.length) hkept
    simp only [dropExcess, Strip.withText, List.length_take] at hlength
    omega
  · intro hends
    apply dropExcess_of_length_le h
    simp only [dropExcess, Strip.withText, List.length_take]
    omega

theorem dropExcess_written_iff {width : Nat} {line : Strip} (h : line.IsSeamed) :
    (dropExcess width line).written width = .ok line.text ↔
      dropExcess width line = line ∧ line.written width = .ok line.text := by
  constructor
  · intro hwritten
    have hkept := dropExcess_of_length_le h (isCutOf_of_written hwritten).length_le
    rw [hkept] at hwritten
    exact ⟨hkept, hwritten⟩
  · rintro ⟨hkept, hwritten⟩
    rw [hkept, hwritten]

theorem written_of_stretchCells_le {width : Nat} {line : Strip}
    (h : stretchCells line.stretches ≤ width) : line.written width = .ok line.text := by
  unfold Strip.written cropStretches
  rw [if_pos h, Except.map, flatten_stretches]

theorem written_of_not_mem {width : Nat} {line : Strip} (hfits : cells line.text ≤ width)
    (hjoiner : joiner ∉ line.text) : line.written width = .ok line.text := by
  -- only behind a joiner does a stretch begin with a character that the line does not count
  have hends : ∀ t ∈ line.stretches.dropLast, t.getLast? ≠ some joiner := by
    intro t ht hlast
    have hsub := subset_of_mem_divide t ((List.dropLast_sublist _).subset ht)
    exact hjoiner (hsub (List.mem_of_getLast? hlast))
  have hcells : stretchCells line.stretches ≤ cells line.stretches.flatten := totalWidth_le hends
  rw [flatten_stretches] at hcells
  exact written_of_stretchCells_le (Nat.le_trans hcells hfits)

end Nomenclator.Console

import Nomenclator.Console.Table
import Nomenclator.Proofs.Text.Basic

/-!
# Text that can always be shown

Cutting fails only where the pieces of a text take fewer cells than the text. Text without joiners
and picture marks takes as many cells as its pieces, so it can be shown at every width, whatever
its words, its tabs and its lines.
-/

namespace Nomenclator.Console

/-! ## Measures -/

theorem measuresEvenly_iff {t : Text} :
    measuresEvenly t = true ↔ ∀ r ∈ t, r ≠ joiner ∧ r ≠ pictureMark := by
  simp [measuresEvenly]

theorem measuresEvenly_of_subset {s t : Text} (h : measuresEvenly t = true) (hsub : s ⊆ t) :
    measuresEvenly s = true :=
  measuresEvenly_iff.2 fun r hr => measuresEvenly_iff.1 h r (hsub hr)

theorem measuresEvenly_append {s t : Text} :
    measuresEvenly (s ++ t) = true ↔ measuresEvenly s = true ∧ measuresEvenly t = true := by
  simp only [measuresEvenly_iff, List.forall_mem_append]

theorem measuresEvenly_blanks (n : Nat) : measuresEvenly (Text.blanks n) = true := by
  rw [measuresEvenly_iff]
  intro r hr
  rw [List.eq_of_mem_replicate hr]
  decide

theorem textOf_extendLast (more : Text) (n : Nat) (done : List Piece) :
    textOf (extendLast more n done).reverse = textOf done.reverse ++ more := by
  cases done with
  | nil => simp [extendLast, textOf]
  | cons piece before => simp [extendLast, textOf]

theorem textOf_piecesFrom (done : List Piece) (last : Option Rune) (t : Text) :
    textOf (piecesFrom done last t) = textOf done.reverse ++ t := by
  fun_induction piecesFrom done last t with
  | case1 => simp
  | case2 => rw [textOf_extendLast]
  | case3 => rw [textOf_extendLast]
  | case4 => rw [textOf_extendLast]
  | case5 => simp [textOf]
  | case6 _ _ _ _ _ _ ih => simp [ih, textOf_extendLast]
  | case7 _ _ _ _ _ _ _ ih => simp [ih, textOf_extendLast]
  | case8 _ _ _ _ _ _ _ _ ih => simp [ih, textOf_extendLast]
  | case9 _ _ _ _ _ _ _ _ ih =>
    rw [ih]
    simp [textOf]

theorem textOf_pieces (t : Text) : textOf (pieces t) = t := by
  rw [pieces, textOf_piecesFrom]
  rfl

theorem cellsOf_cons (piece : Piece) (ps : List Piece) :
    cellsOf (piece :: ps) = piece.cells + cellsOf ps := by
  unfold cellsOf totalWidth
  rw [← List.sum_eq_foldl, ← List.sum_eq_foldl]
  rfl

theorem cells_eq_cellsOf {t : Text} (h : measuresEvenly t = true) :
    cells t = cellsOf (pieces t) := by
  unfold cells
  split
  · rfl
  · rfl
  · next r next rest =>
    rw [if_neg (measuresEvenly_iff.1 h r (by simp)).1]

/-! ## Cutting -/

theorem takePieces?_of_le {room : Nat} {ps : List Piece} (h : room ≤ cellsOf ps) :
    ∃ taken, takePieces? room ps = some taken ∧ ∀ r ∈ taken, r ∈ textOf ps ∨ r = ⟨0x20⟩ := by
  induction ps generalizing room with
  | nil => exact ⟨[], by rw [takePieces?, if_pos (Nat.le_zero.1 h)], by simp⟩
  | cons piece rest ih =>
    rw [cellsOf_cons] at h
    rw [takePieces?]
    split
    · exact ⟨[], rfl, by simp⟩
    · split
      · obtain ⟨taken, htaken, hmem⟩ := ih (show room - piece.cells ≤ cellsOf rest by omega)
        refine ⟨piece.text ++ taken, by rw [htaken]; rfl, ?_⟩
        intro r hr
        rcases List.mem_append.1 hr with hr | hr
        · exact .inl (List.mem_append_left _ hr)
        · exact (hmem r hr).imp (List.mem_append_right _) id
      · exact ⟨[⟨0x20⟩], rfl, by simp⟩

theorem takeCells_of_le {room : Nat} {t : Text} (h : measuresEvenly t = true)
    (hroom : room ≤ cells t) :
    ∃ taken, takeCells room t = .ok taken ∧ measuresEvenly taken = true := by
  rw [cells_eq_cellsOf h] at hroom
  obtain ⟨taken, htaken, hmem⟩ := takePieces?_of_le hroom
  refine ⟨taken, by rw [takeCells, htaken], measuresEvenly_iff.2 fun r hr => ?_⟩
  rcases hmem r hr with hr | rfl
  · rw [textOf_pieces] at hr
    exact measuresEvenly_iff.1 h r hr
  · decide

theorem fit_of_measuresEvenly {t : Text} (h : measuresEvenly t = true) (room : Nat) :
    ∃ shown, fit room t = .ok shown ∧ measuresEvenly shown = true := by
  unfold fit
  dsimp only
  split
  · exact ⟨_, rfl, measuresEvenly_append.2 ⟨h, measuresEvenly_blanks _⟩⟩
  · next hroom => exact takeCells_of_le h (Nat.le_of_not_le hroom)

theorem crop_of_measuresEvenly {t : Text} (h : measuresEvenly t = true) (room : Nat) :
    ∃ shown, crop room t = .ok shown := by
  unfold crop
  split
  · exact ⟨t, rfl⟩
  · next hroom =>
    obtain ⟨taken, htaken, -⟩ := takeCells_of_le h (Nat.le_of_not_le hroom)
    exact ⟨taken, htaken⟩

theorem takeStretches_of_measuresEvenly {stretches : List Text}
    (h : ∀ t ∈ stretches, measuresEvenly t = true) (room : Nat) :
    ∃ shown, takeStretches room stretches = .ok shown := by
  induction stretches generalizing room with
  | nil => exact ⟨[], rfl⟩
  | cons t rest ih =>
    rw [takeStretches]
    split
    · obtain ⟨more, hmore⟩ := ih (fun t ht => h t (List.mem_cons_of_mem _ ht)) (room - cells t)
      exact ⟨t :: more, by rw [hmore]; rfl⟩
    · obtain ⟨shown, hshown, -⟩ := fit_of_measuresEvenly (h t List.mem_cons_self) room
      exact ⟨[shown], by rw [hshown]; rfl⟩

theorem cropStretches_of_measuresEvenly {stretches : List Text}
    (h : ∀ t ∈ stretches, measuresEvenly t = true) (room : Nat) :
    ∃ shown, cropStretches room stretches = .ok shown := by
  unfold cropStretches
  split
  · exact ⟨_, rfl⟩
  · exact takeStretches_of_measuresEvenly h room

/-! ## Breaking -/

theorem subset_of_mem_words (s : Text) : ∀ word ∈ words s, word ⊆ s := by
  fun_induction words s with
  | case1 => simp
  | case2 => simp
  | case3 r rest before word after hword =>
    rename_i ih
    refine List.forall_mem_cons.2 ⟨?_, ?_⟩
    · intro c hc
      simp only [List.mem_append] at hc
      rcases hc with (hc | hc) | hc
      · exact List.takeWhile_subset _ hc
      · exact List.drop_subset _ _ (List.takeWhile_subset _ hc)
      · exact List.drop_subset _ _ (List.takeWhile_subset _ hc)
    · intro more hmore c hc
      exact List.mem_cons_of_mem _ (List.drop_subset _ _ (ih more hmore hc))

theorem mem_of_mem_foldPieces {room : Nat} {line : List Piece} {used : Nat} {ps : List Piece}
    {t : Text} (h : t ∈ foldPieces room line used ps) :
    ∀ r ∈ t, r ∈ textOf line.reverse ∨ r ∈ textOf ps := by
  induction ps generalizing line used with
  | nil =>
    rw [foldPieces] at h
    split at h
    · simp at h
    · rw [List.mem_singleton] at h
      subst h
      exact fun r hr => .inl hr
  | cons piece rest ih =>
    rw [foldPieces] at h
    intro r hr
    split at h
    · rcases List.mem_cons.1 h with rfl | h
      · exact .inl hr
      · refine .inr ?_
        rcases ih h r hr with hr | hr
        · exact List.mem_append_left _ (by simpa [textOf] using hr)
        · exact List.mem_append_right _ hr
    · rcases ih h r hr with hr | hr
      · simp only [textOf, List.reverse_cons, List.flatMap_append, List.mem_append] at hr
        rcases hr with hr | hr
        · exact .inl hr
        · exact .inr (List.mem_append_left _ (by simpa using hr))
      · exact .inr (List.mem_append_right _ hr)

theorem subset_of_mem_fold {room : Nat} {t piece : Text} (h : piece ∈ fold room t) : piece ⊆ t := by
  intro r hr
  rcases mem_of_mem_foldPieces h r hr with hr | hr
  · simp [textOf] at hr
  · rwa [textOf_pieces] at hr

/-- All that has been set is from `t`. -/
def Setting.Within (s : Setting) (t : Text) : Prop := ∀ line ∈ s.lines, line ⊆ t

theorem Setting.within_iff {s : Setting} {t : Text} :
    s.Within t ↔ s.line ⊆ t ∧ ∀ line ∈ s.done, line ⊆ t := by
  simp [Within, lines, or_imp, forall_and, and_comm]

theorem Setting.Within.breakBefore {s : Setting} {t piece : Text} (h : s.Within t)
    (hpiece : piece ⊆ t) (used : Nat) : (s.breakBefore piece used).Within t := by
  obtain ⟨hline, hdone⟩ := within_iff.1 h
  unfold Setting.breakBefore
  split
  · exact within_iff.2 ⟨hpiece, by simp⟩
  · exact within_iff.2 ⟨hpiece, List.forall_mem_cons.2 ⟨hline, hdone⟩⟩

theorem Setting.Within.add {s : Setting} {t word : Text} (h : s.Within t) (hword : word ⊆ t)
    (width : Nat) (folds : Bool) : (s.add width folds word).Within t := by
  obtain ⟨hline, hdone⟩ := within_iff.1 h
  unfold Setting.add
  dsimp only
  split
  · exact within_iff.2 ⟨List.append_subset.2 ⟨hline, hword⟩, hdone⟩
  · split
    · exact h.breakBefore hword _
    · split
      · split
        · exact within_iff.2 ⟨List.append_subset.2 ⟨hline, hword⟩, hdone⟩
        · have hpieces : ∀ piece ∈ fold width word, piece ⊆ t :=
            fun piece hpiece => List.Subset.trans (subset_of_mem_fold hpiece) hword
          refine List.foldlRecOn (motive := fun s : Setting => s.Within t) _ _ h ?_
          intro s hs piece hpiece
          exact hs.breakBefore (hpieces piece hpiece) _
      · exact h.breakBefore hword _

theorem subset_of_mem_breakLine {width : Nat} {folds : Bool} {t line : Text}
    (h : line ∈ breakLine width folds t) : line ⊆ t := by
  unfold breakLine at h
  split at h
  · rw [List.mem_singleton] at h
    rw [h]
    exact List.Subset.refl t
  · have hempty : Setting.empty.Within t := by simp [Setting.Within, Setting.lines, Setting.empty]
    have hset : ((words t).foldl (Setting.add width folds) Setting.empty).Within t := by
      refine List.foldlRecOn (motive := fun s : Setting => s.Within t) _ _ hempty ?_
      intro s hs word hword
      exact hs.add (subset_of_mem_words t word hword) width folds
    exact hset line h

/-! ## Setting -/

theorem exists_mapM_eq_ok {α β ε : Type} {f : α → Except ε β} {p : β → Prop} {xs : List α}
    (h : ∀ x ∈ xs, ∃ y, f x = .ok y ∧ p y) : ∃ ys, xs.mapM f = .ok ys ∧ ∀ y ∈ ys, p y := by
  induction xs with
  | nil => exact ⟨[], rfl, by simp⟩
  | cons x rest ih =>
    obtain ⟨y, hy, hp⟩ := h x List.mem_cons_self
    obtain ⟨ys, hys, hps⟩ := ih fun x hx => h x (List.mem_cons_of_mem _ hx)
    refine ⟨y :: ys, ?_, List.forall_mem_cons.2 ⟨hp, hps⟩⟩
    rw [List.mapM_cons, hy, hys]
    rfl

theorem mem_of_mem_piecesAt {sep : Rune} {t : Text} :
    ∀ piece ∈ Text.piecesAt sep t, piece ⊆ t := by
  induction t with
  | nil => simp [Text.piecesAt]
  | cons r rest ih =>
    rw [Text.piecesAt]
    split
    · refine List.forall_mem_cons.2 ⟨List.nil_subset _, ?_⟩
      exact fun piece hpiece => List.subset_cons_of_subset _ (ih piece hpiece)
    · split
      · simp
      · next piece pieces hpieces =>
        rw [hpieces] at ih
        obtain ⟨hpiece, hrest⟩ := List.forall_mem_cons.1 ih
        refine List.forall_mem_cons.2 ⟨List.cons_subset_cons r hpiece, ?_⟩
        exact fun piece hpiece => List.subset_cons_of_subset _ (hrest piece hpiece)

theorem measuresEvenly_expandTabsFrom {chunk t : Text} (hchunk : measuresEvenly chunk = true)
    (ht : measuresEvenly t = true) (step column : Nat) :
    measuresEvenly (expandTabsFrom step column chunk t) = true := by
  induction t generalizing chunk column with
  | nil => exact hchunk
  | cons r rest ih =>
    have hrest := measuresEvenly_of_subset ht (List.subset_cons_self r rest)
    rw [expandTabsFrom]
    split
    · refine measuresEvenly_append.2 ⟨measuresEvenly_append.2 ⟨hchunk, measuresEvenly_blanks _⟩, ?_⟩
      exact ih rfl hrest _
    · refine ih (measuresEvenly_append.2 ⟨hchunk, ?_⟩) hrest _
      exact measuresEvenly_of_subset ht (by simp)

theorem measuresEvenly_expandTabs {line : Strip} (h : measuresEvenly line.text = true) :
    measuresEvenly (expandTabs line).text = true := by
  unfold expandTabs
  dsimp only
  split
  · exact measuresEvenly_expandTabsFrom rfl h _ _
  · exact h

theorem text_of_mem_ofParts {gap start : Nat} {seams : List Nat} {parts : List Text} :
    ∀ strip ∈ Strip.ofParts gap start seams parts, strip.text ∈ parts := by
  induction parts generalizing start with
  | nil => simp [Strip.ofParts]
  | cons t rest ih =>
    rw [Strip.ofParts]
    refine List.forall_mem_cons.2 ⟨List.mem_cons_self, ?_⟩
    exact fun strip hstrip => List.mem_cons_of_mem _ (ih strip hstrip)

theorem cut_of_measuresEvenly (overflow : Overflow) {line : Strip}
    (h : measuresEvenly line.text = true) (width : Nat) :
    ∃ cut', cut overflow width line = .ok cut' ∧ measuresEvenly cut'.text = true := by
  unfold cut
  split
  · exact ⟨line, rfl, h⟩
  · next hwide =>
    cases overflow with
    | fold =>
      obtain ⟨taken, htaken, heven⟩ := takeCells_of_le h (Nat.le_of_not_le hwide)
      exact ⟨line.withText taken, by rw [htaken]; rfl, heven⟩
    | ellipsis =>
      obtain ⟨shown, hshown, heven⟩ := fit_of_measuresEvenly h (width - 1)
      refine ⟨line.withText (shown ++ [ellipsis]), by rw [hshown]; rfl, ?_⟩
      exact measuresEvenly_append.2 ⟨heven, by decide⟩

theorem align_of_measuresEvenly (alignment : Alignment) (overflow : Overflow) {line : Strip}
    (h : measuresEvenly line.text = true) (width : Nat) :
    ∃ placed, align alignment overflow width line = .ok placed ∧
      measuresEvenly placed.text = true := by
  cases alignment with
  | natural => exact ⟨line, rfl, h⟩
  | left =>
    unfold align
    dsimp only
    split
    · exact ⟨_, rfl, measuresEvenly_append.2 ⟨h, measuresEvenly_blanks _⟩⟩
    · exact cut_of_measuresEvenly overflow h width
  | right =>
    have hstrip : measuresEvenly (line.withText line.text.stripEnd).text = true :=
      measuresEvenly_of_subset h (Text.isPrefix_dropEndWhile _ _).subset
    obtain ⟨cut', hcut, heven⟩ := cut_of_measuresEvenly overflow hstrip width
    refine ⟨_, by rw [align, hcut]; rfl, ?_⟩
    exact measuresEvenly_append.2 ⟨measuresEvenly_blanks _, heven⟩

theorem setLine_of_measuresEvenly (alignment : Alignment) (overflow : Overflow) {line : Strip}
    (h : measuresEvenly line.text = true) (width : Nat) :
    ∃ lines, setLine alignment overflow width line = .ok lines ∧
      ∀ strip ∈ lines, measuresEvenly strip.text = true := by
  -- every step of setting leaves text that measures evenly, so no cut can fail
  have hexpanded := measuresEvenly_expandTabs h
  have hbroken : ∀ strip ∈ (Strip.ofParts 0 0 (expandTabs line).seams
      (breakLine width (overflow == .fold) (expandTabs line).text)).map (dropExcess width),
      measuresEvenly strip.text = true := by
    intro strip hstrip
    obtain ⟨whole, hwhole, rfl⟩ := List.mem_map.1 hstrip
    have hsub := subset_of_mem_breakLine (text_of_mem_ofParts whole hwhole)
    exact measuresEvenly_of_subset hexpanded (List.Subset.trans (List.take_subset _ _) hsub)
  obtain ⟨placed, hplaced, heven⟩ := exists_mapM_eq_ok (f := align alignment overflow width)
    fun strip hstrip => align_of_measuresEvenly alignment overflow (hbroken strip hstrip) width
  obtain ⟨lines, hlines, hall⟩ := exists_mapM_eq_ok (f := cut overflow width)
    fun strip hstrip => cut_of_measuresEvenly overflow (heven strip hstrip) width
  refine ⟨lines, ?_, hall⟩
  unfold setLine
  show ((_ : Except CutError (List Strip)) >>= _) = _
  rw [hplaced]
  exact hlines

theorem setText_of_measuresEvenly (alignment : Alignment) (overflow : Overflow) {t : Text}
    (h : measuresEvenly t = true) (width : Nat) (seams : List Nat) :
    ∃ lines, setText alignment overflow width t seams = .ok lines ∧
      ∀ strip ∈ lines, measuresEvenly strip.text = true := by
  have hlines : ∀ line ∈ Strip.ofParts 1 0 seams t.lines,
      ∃ lines, setLine alignment overflow width line = .ok lines ∧
        ∀ strip ∈ lines, measuresEvenly strip.text = true := by
    intro line hline
    have hsub := mem_of_mem_piecesAt _ (text_of_mem_ofParts line hline)
    exact setLine_of_measuresEvenly alignment overflow (measuresEvenly_of_subset h hsub) width
  obtain ⟨groups, hgroups, hall⟩ := exists_mapM_eq_ok hlines
  refine ⟨groups.flatten, by rw [setText, hgroups]; rfl, ?_⟩
  intro strip hstrip
  obtain ⟨group, hgroup, hmem⟩ := List.mem_flatten.1 hstrip
  exact hall group hgroup strip hmem

theorem subset_of_mem_divide {seams : List Nat} {offset : Nat} {chunk t : Text} :
    ∀ stretch ∈ Strip.divide seams offset chunk t, stretch ⊆ chunk ++ t := by
  induction t generalizing offset chunk with
  | nil => simp [Strip.divide]
  | cons r rest ih =>
    rw [Strip.divide]
    split
    · refine List.forall_mem_cons.2 ⟨?_, ?_⟩
      · intro c hc
        exact List.mem_append_left _ (List.mem_reverse.1 hc)
      · intro stretch hstretch
        exact List.Subset.trans (ih stretch hstretch) (List.subset_append_right _ _)
    · intro stretch hstretch c hc
      exact List.perm_middle.symm.subset (ih stretch hstretch hc)

theorem setRunning_of_measuresEvenly {t : Text} (h : measuresEvenly t = true) (width : Nat)
    (styled : List Span) : ∃ lines, setRunning width t styled = .ok lines := by
  obtain ⟨strips, hstrips, hall⟩ := setText_of_measuresEvenly .natural .fold h width
    (if measuresEvenly t then [] else seamsOf t (Highlight.spans t ++ styled))
  have hcropped : ∀ strip ∈ strips, ∃ line : Text,
      (cropStretches width strip.stretches).map List.flatten = .ok line ∧ True := by
    intro strip hstrip
    -- styles divide the line, but its stretches measure evenly by themselves
    have hstretches : ∀ stretch ∈ strip.stretches, measuresEvenly stretch = true :=
      fun stretch hstretch =>
        measuresEvenly_of_subset (hall strip hstrip) (subset_of_mem_divide stretch hstretch)
    obtain ⟨shown, hshown⟩ := cropStretches_of_measuresEvenly hstretches width
    exact ⟨shown.flatten, by rw [hshown]; rfl, trivial⟩
  obtain ⟨lines, hlines, -⟩ := exists_mapM_eq_ok hcropped
  refine ⟨lines, ?_⟩
  unfold setRunning
  dsimp only
  rw [hstrips]
  exact hlines

/-! ## Markup -/

namespace Markup

theorem replaceNames_of_not_mem {t : Text} (h : Picture.colon ∉ t) :
    Picture.replaceNames t = t := by
  induction t with
  | nil => rw [Picture.replaceNames]
  | cons r rest ih =>
    rw [List.mem_cons, not_or] at h
    rw [Picture.replaceNames, if_neg (Ne.symm h.1), ih h.2]

theorem dropLoneSlashes_subset (t : Text) : dropLoneSlashes t ⊆ t := by
  fun_induction dropLoneSlashes t with
  | case1 rest ih =>
    exact List.cons_subset.2 ⟨by simp [opening], fun c hc => by simp [ih hc]⟩
  | case2 r rest _ ih => exact List.cons_subset_cons r ih
  | case3 => exact List.Subset.refl _

theorem renderPlain_subset {t : Text} (h : Picture.colon ∉ t) : renderPlain t ⊆ t := by
  rw [renderPlain, replaceNames_of_not_mem fun hc => h (dropLoneSlashes_subset t hc)]
  exact dropLoneSlashes_subset t

theorem subset_of_escapedTag? {s slashes tag : Text} (h : escapedTag? s = some (slashes, tag)) :
    slashes ⊆ s ∧ tag ⊆ s := by
  unfold escapedTag? at h
  obtain ⟨n, -, h⟩ := Option.map_eq_some_iff.1 h
  injection h with hslashes htag
  subst hslashes htag
  exact ⟨List.takeWhile_subset _, List.Subset.trans (List.take_subset _ _) (List.drop_subset _ _)⟩

theorem shownText_tagParts_subset {slashes tag : Text} (hslashes : Picture.colon ∉ slashes)
    (htag : Picture.colon ∉ tag) : shownText (tagParts slashes tag) ⊆ slashes ++ tag := by
  have hhalf : slashes.take (slashes.length / 2) ⊆ slashes := List.take_subset _ _
  intro r hr
  simp only [shownText, tagParts, List.flatMap_cons, List.flatMap_nil, List.append_nil,
    List.mem_append] at hr
  rcases hr with hr | hr
  · exact List.mem_append_left _ (hhalf (renderPlain_subset (fun hc => hslashes (hhalf hc)) hr))
  · split at hr
    · exact List.mem_append_right _ (renderPlain_subset htag hr)
    · simp [Part.text] at hr

theorem shownText_partsFrom_subset {plain s : Text} (hplain : Picture.colon ∉ plain)
    (hs : Picture.colon ∉ s) : shownText (partsFrom plain s) ⊆ plain ++ s := by
  fun_induction partsFrom plain s with
  | case1 plain =>
    rw [List.append_nil]
    simpa [shownText, Part.text] using renderPlain_subset hplain
  | case2 plain r rest slashes tag htag ih =>
    obtain ⟨hslashes, htag⟩ := subset_of_escapedTag? htag
    have hdrop : rest.drop (slashes.length + tag.length - 1) ⊆ r :: rest :=
      List.Subset.trans (List.drop_subset _ _) (List.subset_cons_self r rest)
    have hmore := ih (by simp) fun hc => hs (hdrop hc)
    have htags := shownText_tagParts_subset (fun hc => hs (hslashes hc)) fun hc => hs (htag hc)
    intro c hc
    simp only [shownText, List.flatMap_cons, List.flatMap_append, List.mem_append,
      List.cons_append] at hc
    -- what is shown comes from before the tag, from the tag or from behind it
    rcases hc with hc | hc | hc
    · exact List.mem_append_left _ (renderPlain_subset hplain hc)
    · rcases List.mem_append.1 (htags hc) with hc | hc
      · exact List.mem_append_right _ (hslashes hc)
      · exact List.mem_append_right _ (htag hc)
    · exact List.mem_append_right _ (hdrop (hmore hc))
  | case3 plain r rest _ ih =>
    rw [List.mem_cons, not_or] at hs
    have hmore := ih (by simp [hplain, hs.1]) hs.2
    rwa [List.append_assoc, List.singleton_append] at hmore

theorem shownText_parts_subset {markup : Text} (h : Picture.colon ∉ markup) :
    shownText (parts markup) ⊆ markup := by
  unfold parts
  split
  · exact shownText_partsFrom_subset (by simp) h
  · simp [shownText, Part.text, replaceNames_of_not_mem h]

theorem escapeTags_subset (t : Text) : escapeTags t ⊆ backslash :: t := by
  fun_induction escapeTags t with
  | case1 => exact List.nil_subset _
  | case2 r rest slashes tag htag ih =>
    obtain ⟨hslashes, htag⟩ := subset_of_escapedTag? htag
    have hdrop : rest.drop (slashes.length + tag.length - 1) ⊆ r :: rest :=
      List.Subset.trans (List.drop_subset _ _) (List.subset_cons_self r rest)
    intro c hc
    simp only [List.mem_append, List.mem_cons] at hc
    rcases hc with ((hc | hc) | hc | hc) | hc
    · exact List.mem_cons_of_mem _ (hslashes hc)
    · exact List.mem_cons_of_mem _ (hslashes hc)
    · exact hc ▸ List.mem_cons_self
    · exact List.mem_cons_of_mem _ (htag hc)
    · exact List.cons_subset_cons backslash hdrop (ih hc)
  | case3 r rest _ ih =>
    refine List.cons_subset.2 ⟨by simp, List.Subset.trans ih ?_⟩
    exact List.cons_subset_cons backslash (List.subset_cons_self r rest)

theorem escape_subset (t : Text) : escape t ⊆ backslash :: t := by
  unfold escape closeEnd
  split
  · exact List.append_subset.2 ⟨escapeTags_subset t, by simp⟩
  · exact escapeTags_subset t

end Markup

theorem measuresEvenly_escape {t : Text} (h : measuresEvenly t = true) :
    measuresEvenly (Markup.escape t) = true := by
  refine measuresEvenly_iff.2 fun r hr => ?_
  rcases List.mem_cons.1 (Markup.escape_subset t hr) with rfl | hr
  · decide
  · exact measuresEvenly_iff.1 h r hr

theorem shownText_dropPartControls_subset (parts : List Markup.Part) :
    Markup.shownText (parts.map dropPartControls) ⊆ Markup.shownText parts := by
  induction parts with
  | nil => exact List.Subset.refl _
  | cons part rest ih =>
    have hpart : (dropPartControls part).text ⊆ part.text := by
      cases part with
      | shown t => exact List.filter_sublist.subset
      | tag t => exact List.Subset.refl _
    intro c hc
    rcases List.mem_append.1 hc with hc | hc
    · exact List.mem_append_left _ (hpart hc)
    · exact List.mem_append_right _ (ih hc)

/-- Markup without colons, joiners and picture marks is shown at every width. -/
theorem exists_printed_eq_ok {markup : Text} (hcolon : Picture.colon ∉ markup)
    (heven : measuresEvenly markup = true) (width : Nat) :
    ∃ shown, printed width markup = .ok shown := by
  have hsub := List.Subset.trans (shownText_dropPartControls_subset (Markup.parts markup))
    (Markup.shownText_parts_subset hcolon)
  obtain ⟨lines, hlines⟩ := setRunning_of_measuresEvenly (measuresEvenly_of_subset heven hsub) width
    (Markup.spans ((Markup.parts markup).map dropPartControls))
  exact ⟨joinLines lines ++ [⟨0x0A⟩], by rw [printed, hlines]; rfl⟩

theorem exists_literal_eq_ok {t : Text} (hcolon : Picture.colon ∉ t)
    (heven : measuresEvenly t = true) (width : Nat) : ∃ shown, literal width t = .ok shown := by
  have hdropped : measuresEvenly (dropControls t) = true :=
    measuresEvenly_of_subset heven List.filter_sublist.subset
  obtain ⟨lines, hlines⟩ := setRunning_of_measuresEvenly hdropped width []
  refine ⟨joinLines lines, ?_⟩
  rw [literal, Markup.replaceNames_of_not_mem hcolon, hlines]
  rfl

/-! ## Tables -/

theorem measuresEvenly_join {sep : Text} {pieces : List Text} (hsep : measuresEvenly sep = true)
    (h : ∀ piece ∈ pieces, measuresEvenly piece = true) :
    measuresEvenly (Text.join sep pieces) = true := by
  fun_induction Text.join sep pieces with
  | case1 => rfl
  | case2 piece => exact h piece List.mem_cons_self
  | case3 piece rest hrest ih =>
    obtain ⟨hpiece, hmore⟩ := List.forall_mem_cons.1 h
    exact measuresEvenly_append.2 ⟨measuresEvenly_append.2 ⟨hpiece, hsep⟩, ih hmore⟩

namespace Table

theorem cell_of_measuresEvenly (alignment : Alignment) (width : Nat) {t : Text}
    (h : measuresEvenly t = true) :
    ∃ drawn, cell alignment width t = .ok drawn ∧ measuresEvenly drawn = true := by
  unfold cell
  split
  · exact ⟨_, rfl, measuresEvenly_blanks _⟩
  · obtain ⟨lines, hlines, hall⟩ :=
      setText_of_measuresEvenly alignment .ellipsis h (width - padding) []
    refine ⟨[⟨0x20⟩] ++ (lines.map Strip.text).headD [] ++ [⟨0x20⟩], by rw [hlines]; rfl, ?_⟩
    have hfirst : measuresEvenly ((lines.map Strip.text).headD []) = true := by
      cases lines with
      | nil => rfl
      | cons line rest => exact hall line List.mem_cons_self
    have hblank : measuresEvenly [⟨0x20⟩] = true := by decide
    exact measuresEvenly_append.2 ⟨measuresEvenly_append.2 ⟨hblank, hfirst⟩, hblank⟩

theorem drawRow_of_measuresEvenly {bar : Rune} (hbar : measuresEvenly [bar] = true)
    (columns : List Column) (widths : List Nat) {row : List Text}
    (h : ∀ t ∈ row, measuresEvenly t = true) :
    ∃ drawn, drawRow bar columns widths row = .ok drawn ∧ measuresEvenly drawn = true := by
  have hcells : ∀ entry ∈ columns.zip (widths.zip row),
      ∃ drawn, cell entry.1.alignment entry.2.1 entry.2.2 = .ok drawn ∧
        measuresEvenly drawn = true := fun entry hentry =>
    cell_of_measuresEvenly _ _ (h _ (List.of_mem_zip (List.of_mem_zip hentry).2).2)
  obtain ⟨cells, hdrawn, hall⟩ := exists_mapM_eq_ok hcells
  refine ⟨[bar] ++ Text.join [bar] cells ++ [bar], by rw [drawRow, hdrawn]; rfl, ?_⟩
  have hjoined := measuresEvenly_append.2 ⟨hbar, measuresEvenly_join hbar hall⟩
  exact measuresEvenly_append.2 ⟨hjoined, hbar⟩

theorem measuresEvenly_drawRule {rule : Rule}
    (h : ∀ r ∈ [rule.left, rule.stroke, rule.crossing, rule.right], measuresEvenly [r] = true)
    (widths : List Nat) : measuresEvenly (rule.draw widths) = true := by
  simp only [List.forall_mem_cons] at h
  obtain ⟨hleft, hstroke, hcrossing, hright, -⟩ := h
  have hstrokes : ∀ piece ∈ widths.map fun w => List.replicate w rule.stroke,
      measuresEvenly piece = true := by
    intro piece hpiece
    obtain ⟨w, -, rfl⟩ := List.mem_map.1 hpiece
    refine measuresEvenly_of_subset hstroke fun r hr => ?_
    rw [List.eq_of_mem_replicate hr]
    exact List.mem_singleton_self _
  have hmiddle := measuresEvenly_append.2 ⟨hleft, measuresEvenly_join hcrossing hstrokes⟩
  exact measuresEvenly_append.2 ⟨hmiddle, hright⟩

theorem exists_draw_eq_ok (table : Table) (htitle : measuresEvenly table.title = true)
    (hheader : ∀ column ∈ table.columns, measuresEvenly column.header = true)
    (hrows : ∀ row ∈ table.rows, ∀ t ∈ row, measuresEvenly t = true) (width : Nat) :
    ∃ lines, table.draw width = .ok lines := by
  have hbars : measuresEvenly ['┃'] = true ∧ measuresEvenly ['│'] = true := by decide
  obtain ⟨title, htitle, heven⟩ := setText_of_measuresEvenly .left .fold htitle
    (totalWidth (table.widths width) + table.borders) []
  obtain ⟨header, hheader, hevenHeader⟩ := drawRow_of_measuresEvenly hbars.1 table.columns
    (table.widths width) (List.forall_mem_map.2 hheader)
  obtain ⟨rows, hrows, hevenRows⟩ := exists_mapM_eq_ok fun row hrow =>
    drawRow_of_measuresEvenly hbars.2 table.columns (table.widths width) (hrows row hrow)
  have hall : ∀ line ∈ title.map Strip.text ++
      [topRule.draw (table.widths width), header, headRule.draw (table.widths width)] ++ rows ++
      [bottomRule.draw (table.widths width)], measuresEvenly line = true := by
    simp only [List.forall_mem_append, List.forall_mem_cons, List.forall_mem_map]
    refine ⟨⟨⟨heven, ?_, hevenHeader, ?_, by simp⟩, hevenRows⟩, ?_, by simp⟩ <;>
      exact measuresEvenly_drawRule (by decide) _
  obtain ⟨lines, hlines, -⟩ := exists_mapM_eq_ok (p := fun _ => True) fun line hline =>
    (crop_of_measuresEvenly (hall line hline) width).imp fun _ h => ⟨h, trivial⟩
  refine ⟨lines, ?_⟩
  unfold draw
  dsimp only
  rw [htitle]
  show ((_ : Except CutError _) >>= _) = _
  rw [hheader]
  show ((_ : Except CutError _) >>= _) = _
  rw [hrows]
  exact hlines

end Table

theorem Showing.one_stop {shown : Except CutError Text} :
    (Showing.one shown).stop = none ↔ ∃ t, shown = .ok t := by
  cases shown <;> simp [Showing.one, Showing.ofList]

end Nomenclator.Console

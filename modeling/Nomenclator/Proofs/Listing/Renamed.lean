import Nomenclator.Proofs.Listing.Cut
import Nomenclator.Proofs.Rename.Words

/-!
# Separators under new names

Renaming may turn a line into a separator, or one into another line, only at the token where the
address stands. Renames that leave these tokens alone leave the cut of the text as it is.
-/

namespace Nomenclator.Listing

/-! ## Tokens in the place of an address -/

/-- The renames leave a token alone that stands where a line has its address, if it is a hexadecimal
number before or after. `b` tells whether a line starts with `s`. -/
def KeepsFrom (renames : Entries Text) (b : Bool) (s : Text) : Prop :=
  ∀ before after token tail, s = before ++ after → startsLine b before = true →
    Placed token tail after → (separatorEnd? tail).isSome = true →
    IsHexNumber token ∨ IsHexNumber (renameRun renames token) → renameRun renames token = token

/-- The renames make no separator and break none. -/
def KeepsAddresses (renames : Entries Text) (s : Text) : Prop := KeepsFrom renames true s

variable {renames : Entries Text} {b : Bool} {s : Text}

theorem KeepsFrom.here (h : KeepsFrom renames true s) {token tail : Text}
    (hplaced : Placed token tail s) (hend : (separatorEnd? tail).isSome = true)
    (hhex : IsHexNumber token ∨ IsHexNumber (renameRun renames token)) :
    renameRun renames token = token := h [] s token tail rfl rfl hplaced hend hhex

theorem KeepsFrom.append {a : Text} (h : KeepsFrom renames b (a ++ s)) :
    KeepsFrom renames (startsLine b a) s := by
  rintro before after token tail rfl hline
  exact h (a ++ before) after token tail (List.append_assoc _ _ _).symm
    (by rwa [startsLine_append])

theorem startsLine_of_false (h : startsLine false s = true) (b : Bool) : startsLine b s = true := by
  cases s with
  | nil => exact Bool.noConfusion h
  | cons r rest => exact h

theorem KeepsFrom.behind (h : KeepsFrom renames b s) : KeepsFrom renames false s :=
  fun before after token tail hs hline =>
    h before after token tail hs (startsLine_of_false hline b)

theorem keepsAddresses_of_not_hex
    (h : ∀ entry ∈ renames, ¬IsHexNumber entry.1 ∧ ¬IsHexNumber entry.2) (s : Text) :
    KeepsAddresses renames s := by
  intro before after token tail _ _ _ _ hhex
  unfold renameRun at hhex ⊢
  split at hhex
  · next hword =>
    rw [if_pos hword]
    cases hget : renames.get? token with
    | none => rfl
    | some new =>
      rw [hget] at hhex
      exact (not_or.2 (h _ (Entries.mem_of_get? hget)) hhex).elim
  · next hword => rw [if_neg hword]

/-! ## Parts of separators -/

theorem isWord_of_isDash {r : Rune} (h : isDash r = true) : r.isWord = false := by
  obtain ⟨code⟩ := r
  obtain rfl : code = 0x2D := by simpa [isDash] using h
  decide

theorem isWord_of_isSpaceOrTab {r : Rune} (h : isSpaceOrTab r = true) : r.isWord = false :=
  isWord_of_isBlank (isBlank_of_isSpaceOrTab h)

theorem uniform_of_isHexNumber {digits : Text} (h : IsHexNumber digits) : Uniform true digits :=
  ⟨h.1, fun r hr => isWord_of_isHexDigit (h.2 r hr)⟩

theorem ends_cons {r : Rune} (hr : r.isWord = false) (t : Text) : Ends true (r :: t) := by
  rintro x ⟨⟩
  simp [hr]

theorem gap_of_placed {dashes blanks : Text} (hdashes : ∀ r ∈ dashes, isDash r = true)
    (hblanks : ∀ r ∈ blanks, r.isBlank = true) :
    ∀ r ∈ ⟨0x2F⟩ :: ⟨0x2F⟩ :: dashes ++ blanks ++ [⟨0x28⟩], r.isWord = false := by
  simp only [List.forall_mem_append, List.forall_mem_cons]
  exact ⟨⟨⟨by decide, by decide, fun r hr => isWord_of_isDash (hdashes r hr)⟩,
    fun r hr => isWord_of_isBlank (hblanks r hr)⟩, by decide, by simp⟩

theorem isWord_of_closesAddress {t : Text} (ht : ClosesAddress t) : ∀ r ∈ t, r.isWord = false := by
  rcases ht with hblank | ⟨blanks, dashes, spaces, rfl, hblanks, -, hdashes, hspaces⟩
  · exact fun r hr => isWord_of_isBlank (hblank r hr)
  · simp only [List.forall_mem_append]
    exact ⟨⟨fun r hr => isWord_of_isBlank (hblanks r hr),
      fun r hr => isWord_of_isDash (hdashes r hr)⟩,
      fun r hr => isWord_of_isSpaceOrTab (hspaces r hr)⟩

theorem cut_restOfWord {w : Text} (hw : ∀ r ∈ w, r.isWord = true) (t : Text) :
    cut false (w ++ t) = (w ++ (cut false t).1, (cut false t).2) := by
  induction w with
  | nil => rfl
  | cons r rest ih =>
    have hr : (r.code == 0x0A) = false := by
      by_contra hcode
      obtain ⟨code⟩ := r
      obtain rfl : code = 0x0A := by simpa using hcode
      exact absurd (hw _ List.mem_cons_self) (by decide)
    rw [List.cons_append, cut_cons (by simp), hr, ih fun x hx => hw x (List.mem_cons_of_mem _ hx)]
    rfl

theorem cut_word {w t : Text} (hw : Uniform true w) :
    cut b (w ++ t) = (w ++ (cut false t).1, (cut false t).2) := by
  have hnone : separator? (w ++ t) = none := by
    refine separator?_of_not_slashes ?_
    rintro ⟨u, hu⟩
    obtain ⟨r, rest, rfl, hr⟩ := exists_cons_of_uniform hw
    obtain rfl : ⟨0x2F⟩ = r := (List.cons.inj hu).1
    exact absurd hr (by decide)
  have hfalse : cut b (w ++ t) = cut false (w ++ t) := by
    obtain ⟨r, rest, rfl⟩ := List.exists_cons_of_ne_nil hw.1
    rw [List.cons_append] at hnone ⊢
    rw [cut_cons fun _ => hnone, cut_cons (by simp)]
  rw [hfalse, cut_restOfWord hw.2]

theorem placed_renameRuns {token tail : Text} (htoken : Uniform true token)
    (hplaced : Placed token tail s) :
    Placed (renameRun renames token) (renameRuns renames tail) (renameRuns renames s) := by
  obtain ⟨dashes, blanks, rfl, hlength, hdashes, hblanks⟩ := hplaced
  refine ⟨dashes, blanks, ?_, hlength, hdashes, hblanks⟩
  have hsplit (u v : Text) : ⟨0x2F⟩ :: ⟨0x2F⟩ :: dashes ++ blanks ++ ⟨0x28⟩ :: u ++ ⟨0x29⟩ :: v =
      (⟨0x2F⟩ :: ⟨0x2F⟩ :: dashes ++ blanks ++ [⟨0x28⟩]) ++ (u ++ ⟨0x29⟩ :: v) := by simp
  rw [hsplit, renameRuns_gap (gap_of_placed hdashes hblanks),
    renameRuns_append htoken (ends_cons (by decide) tail), renameRuns_cons (by decide), hsplit]

section

variable (h : AreIdentifiers renames)
include h

theorem exists_placed_of_renameRuns {token' tail' : Text} (htoken : Uniform true token')
    (hplaced : Placed token' tail' (renameRuns renames s)) :
    ∃ token tail, Placed token tail s ∧ Uniform true token ∧ renameRun renames token = token' ∧
      renameRuns renames tail = tail' := by
  obtain ⟨dashes, blanks, hparts, hlength, hdashes, hblanks⟩ := hplaced
  have hsplit (u v : Text) : ⟨0x2F⟩ :: ⟨0x2F⟩ :: dashes ++ blanks ++ ⟨0x28⟩ :: u ++ ⟨0x29⟩ :: v =
      (⟨0x2F⟩ :: ⟨0x2F⟩ :: dashes ++ blanks ++ [⟨0x28⟩]) ++ (u ++ ⟨0x29⟩ :: v) := by simp
  rw [hsplit] at hparts
  obtain ⟨t, rfl, ht⟩ := renameRuns_eq_append h (gap_of_placed hdashes hblanks) hparts
  obtain ⟨token, v, rfl, hword, -, hrename, hv⟩ :=
    renameRuns_eq_word h htoken (ends_cons (by decide) tail') ht
  obtain ⟨tail, rfl, htail⟩ := renameRuns_eq_append h (w := [⟨0x29⟩]) (by decide) hv
  exact ⟨token, tail, ⟨dashes, blanks, (hsplit _ _).symm, hlength, hdashes, hblanks⟩, hword,
    hrename, htail⟩

theorem dropReturn_renameRuns (s : Text) :
    dropReturn (renameRuns renames s) = renameRuns renames (dropReturn s) := by
  have hword (w t : Text) (hw : Uniform true w) : dropReturn (w ++ t) = w ++ t := by
    obtain ⟨r, rest, rfl, hr⟩ := exists_cons_of_uniform hw
    unfold dropReturn
    split
    · next hsplit =>
      rw [List.cons_append, List.cons.injEq] at hsplit
      rw [hsplit.1] at hr
      exact absurd hr (by decide)
    · rfl
  induction s using words_induction with
  | nil => rfl
  | gap r t hr _ =>
    obtain ⟨code⟩ := r
    rw [renameRuns_cons hr]
    by_cases hcode : code = 0x0D
    · subst hcode
      rfl
    · rw [dropReturn, dropReturn, renameRuns_cons hr] <;> simpa using hcode
  | word w t hw ht _ =>
    rw [hword w t hw, renameRuns_append hw ht, hword _ _ (uniform_renameRun h hw)]

theorem atLineEnd_renameRuns (s : Text) : atLineEnd (renameRuns renames s) = atLineEnd s := by
  have hword (w t : Text) (hw : Uniform true w) : atLineEnd (w ++ t) = false := by
    obtain ⟨⟨code⟩, rest, rfl, hr⟩ := exists_cons_of_uniform hw
    have hcode : code ≠ 0x0A := by
      rintro rfl
      exact absurd hr (by decide)
    simpa [atLineEnd] using hcode
  induction s using words_induction with
  | nil => rfl
  | gap r t hr _ => rw [renameRuns_cons hr]; rfl
  | word w t hw ht _ =>
    rw [renameRuns_append hw ht, hword _ _ hw, hword _ _ (uniform_renameRun h hw)]

theorem separatorEnd?_renameRuns (s : Text) :
    separatorEnd? (renameRuns renames s) = (separatorEnd? s).map (renameRuns renames) := by
  have hblank := span_renameRuns h (p := Rune.isBlank) (fun r => isWord_of_isBlank) s
  have hsplit := List.takeWhile_append_dropWhile (p := Rune.isBlank) (l := s)
  have hgap : ∀ r ∈ s.takeWhile Rune.isBlank, r.isWord = false :=
    fun r hr => isWord_of_isBlank (List.mem_takeWhile_imp hr)
  unfold separatorEnd?
  dsimp only
  rw [hblank.1, hblank.2, (span_renameRuns h (fun r => isWord_of_isDash) _).2,
    (span_renameRuns h (fun r => isWord_of_isSpaceOrTab) _).2, dropReturn_renameRuns h,
    atLineEnd_renameRuns h]
  split
  · rfl
  · split
    · -- the line feed before which it ends is in the white space at the start
      generalize s.takeWhile Rune.isBlank = blanks at hsplit hgap ⊢
      generalize s.dropWhile Rune.isBlank = rest at hsplit ⊢
      subst hsplit
      have hrest (n : Nat) : ∀ r ∈ blanks.drop n, r.isWord = false :=
        fun r hr => hgap r (List.mem_of_mem_drop hr)
      have hshort : blanks.length - (blanks.reverse.takeWhile fun r => r.code != 0x0A).length - 1 ≤
          blanks.length := by omega
      rw [renameRuns_gap hgap, List.drop_append_of_le_length hshort, Option.map_some,
        List.drop_append_of_le_length hshort, renameRuns_gap (hrest _)]
    · rfl

/-! ## Separators -/

/-- A separator stays one at the start of the renamed text, and no other text becomes one. -/
theorem afterSeparator?_renameRuns (hkeeps : KeepsFrom renames true s) :
    afterSeparator? (renameRuns renames s) = (afterSeparator? s).map (renameRuns renames) := by
  ext rest
  rw [Option.map_eq_some_iff]
  constructor
  · intro hafter
    obtain ⟨digits, tail', hplaced, hhex, hend⟩ := afterSeparator?_eq_some_iff.1 hafter
    obtain ⟨token, tail, hplaced', hword, rfl, rfl⟩ :=
      exists_placed_of_renameRuns h (uniform_of_isHexNumber hhex) hplaced
    rw [separatorEnd?_renameRuns h, Option.map_eq_some_iff] at hend
    obtain ⟨after, hend, rfl⟩ := hend
    have hsame := hkeeps.here hplaced' (by rw [hend]; rfl) (.inr hhex)
    rw [hsame] at hhex
    exact ⟨after, afterSeparator?_eq_some_iff.2 ⟨token, tail, hplaced', hhex, hend⟩, rfl⟩
  · rintro ⟨after, hafter, rfl⟩
    obtain ⟨digits, tail, hplaced, hhex, hend⟩ := afterSeparator?_eq_some_iff.1 hafter
    have hsame := hkeeps.here hplaced (by rw [hend]; rfl) (.inl hhex)
    have hplaced' : Placed (renameRun renames digits) (renameRuns renames tail)
        (renameRuns renames s) := placed_renameRuns (uniform_of_isHexNumber hhex) hplaced
    rw [hsame] at hplaced'
    exact afterSeparator?_eq_some_iff.2 ⟨digits, _, hplaced', hhex,
      by rw [separatorEnd?_renameRuns h, hend]; rfl⟩

theorem exists_of_separator? {a : Text} (hreturn : ∀ r ∈ s, r.code ≠ 0x0D)
    (hkeeps : KeepsFrom renames true s) (ha : separator? s = some a) :
    ∃ rest, s = a ++ rest ∧ renameRuns renames s = a ++ renameRuns renames rest ∧
      separator? (renameRuns renames s) = some a := by
  obtain ⟨rest, hs, hafter⟩ := separator?_eq_some_iff.1 ha
  have hafter' : afterSeparator? (renameRuns renames s) = some (renameRuns renames rest) := by
    rw [afterSeparator?_renameRuns h hkeeps, hafter]
    rfl
  obtain ⟨_, -, hseparator, -⟩ := isSeparator_of_separator? ha
  obtain ⟨digits, tail, hplaced, hhex, htail⟩ := hseparator.isAddress fun r hr =>
    hreturn r (by rw [hs]; exact List.mem_append_left _ hr)
  have hplaced' := hplaced.append rest
  rw [hs, hplaced'.afterSeparator?, afterOpening?_of_hex hhex] at hafter
  subst hs
  have hsame := hkeeps.here hplaced' (by rw [hafter]; rfl) (.inl hhex)
  have hrename : renameRuns renames (a ++ rest) = a ++ renameRuns renames rest := by
    obtain ⟨dashes, blanks, rfl, -, hdashes, hblanks⟩ := hplaced
    have hsplit (u : Text) : ⟨0x2F⟩ :: ⟨0x2F⟩ :: dashes ++ blanks ++ ⟨0x28⟩ :: digits ++
        ⟨0x29⟩ :: tail ++ u = (⟨0x2F⟩ :: ⟨0x2F⟩ :: dashes ++ blanks ++ [⟨0x28⟩]) ++
          (digits ++ ⟨0x29⟩ :: (tail ++ u)) := by simp
    rw [hsplit, renameRuns_gap (gap_of_placed hdashes hblanks),
      renameRuns_append (uniform_of_isHexNumber hhex) (ends_cons (by decide) _), hsame,
      renameRuns_cons (by decide), renameRuns_gap (isWord_of_closesAddress htail), hsplit]
  exact ⟨rest, rfl, hrename, separator?_eq_some_iff.2 ⟨_, hrename, hafter'⟩⟩

theorem separator?_renameRuns_eq_none (hkeeps : KeepsFrom renames true s)
    (hnone : separator? s = none) : separator? (renameRuns renames s) = none := by
  rw [separator?, Option.map_eq_none_iff] at hnone ⊢
  rw [afterSeparator?_renameRuns h hkeeps, hnone]
  rfl

/-- The cut of the renamed text is the cut of the text, with all renamed but the separators. -/
theorem cut_renameRuns (b : Bool) (s : Text) (hreturn : ∀ r ∈ s, r.code ≠ 0x0D)
    (hkeeps : KeepsFrom renames b s) :
    cut b (renameRuns renames s) = (renameRuns renames (cut b s).1,
      (cut b s).2.map fun piece => (piece.1, renameRuns renames piece.2)) := by
  -- the scan and the renaming go on alike: behind a separator, behind a word, or by one character
  by_cases hnone : b = true → separator? s = none
  · have hnone' : b = true → separator? (renameRuns renames s) = none := by
      rintro rfl
      exact separator?_renameRuns_eq_none h hkeeps (hnone rfl)
    rcases words_cases s with rfl | ⟨r, t, rfl, hr⟩ | ⟨w, t, rfl, hw, ht⟩
    · rw [renameRuns_nil, cut_nil]
      rfl
    · rw [renameRuns_cons hr] at hnone' ⊢
      have hkeeps' : KeepsFrom renames (r.code == 0x0A) t := hkeeps.append (a := [r])
      rw [cut_cons hnone', cut_cons hnone, cut_renameRuns (r.code == 0x0A) t
        (fun x hx => hreturn x (List.mem_cons_of_mem _ hx)) hkeeps', renameRuns_cons hr]
    · have hkeeps' : KeepsFrom renames false t := hkeeps.append.behind
      have hends : Ends true (cut false t).1 := by
        intro r hr
        rw [head?_cut_false] at hr
        exact ht r hr
      have hshorter : t.length < (w ++ t).length := by
        have := List.length_pos_iff.2 hw.1
        rw [List.length_append]
        omega
      rw [renameRuns_append hw ht, cut_word hw, cut_word (uniform_renameRun h hw),
        cut_renameRuns false t (fun x hx => hreturn x (List.mem_append_right _ hx)) hkeeps',
        renameRuns_append hw hends]
  · obtain ⟨rfl, hsome⟩ := Classical.not_imp.1 hnone
    obtain ⟨a, ha⟩ := Option.ne_none_iff_exists'.1 hsome
    obtain ⟨rest, rfl, hrename, ha'⟩ := exists_of_separator? h hreturn hkeeps ha
    have hshorter : rest.length < (a ++ rest).length := by
      have := List.length_pos_iff.2 (separator_ne_nil ha)
      rw [List.length_append]
      omega
    rw [hrename] at ha' ⊢
    rw [cut_separator ha', cut_separator ha, cut_renameRuns false rest
      (fun x hx => hreturn x (List.mem_append_right _ hx)) hkeeps.append.behind]
    rfl
termination_by s.length

end

end Nomenclator.Listing

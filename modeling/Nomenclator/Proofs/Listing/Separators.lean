import Nomenclator.Listing.Basic
import Nomenclator.Proofs.Text.Basic

/-!
# Lines with addresses

What a separator looks like, and how the cut at separators goes through a text: what stands after
the next line feed has no say in whether there is one.
-/

namespace Nomenclator.Listing

/-! ## Characters -/

theorem isBlank_of_isSpaceOrTab {r : Rune} (h : isSpaceOrTab r = true) : r.isBlank = true := by
  simp only [isSpaceOrTab, Bool.or_eq_true, beq_iff_eq] at h
  obtain ⟨code⟩ := r
  rcases h with rfl | rfl <;> decide

theorem isBlank_of_isDash {r : Rune} (h : isDash r = true) : r.isBlank = false := by
  simp only [isDash, beq_iff_eq] at h
  obtain ⟨code⟩ := r
  rw [show code = 0x2D from h]
  decide

theorem isDash_of_isBlank {r : Rune} (h : r.isBlank = true) : isDash r = false := by
  by_contra hr
  rw [isBlank_of_isDash (by simpa using hr)] at h
  exact Bool.noConfusion h

theorem isDash_of_isLineBreak {r : Rune} (h : isLineBreak r = true) : isDash r = false := by
  simp only [isLineBreak, Bool.or_eq_true, beq_iff_eq] at h
  obtain h | h := h <;> simp [isDash, h]

theorem isSpaceOrTab_of_isLineBreak {r : Rune} (h : isLineBreak r = true) :
    isSpaceOrTab r = false := by
  simp only [isLineBreak, Bool.or_eq_true, beq_iff_eq] at h
  obtain h | h := h <;> simp [isSpaceOrTab, h]

/-! ## Stages -/

/-- What follows the separator from its closing parenthesis on. -/
def afterDigits? : Text → Option Text
  | ⟨0x29⟩ :: s => separatorEnd? s
  | _ => none

def afterOpening? : Text → Option Text
  | ⟨0x28⟩ :: s =>
    if (s.takeWhile Rune.isHexDigit).isEmpty then none
    else afterDigits? (s.dropWhile Rune.isHexDigit)
  | _ => none

theorem afterDigits?_of_head {s : Text} (h : ∀ r ∈ s.head?, r ≠ ⟨0x29⟩) :
    afterDigits? s = none := by
  unfold afterDigits?
  split
  · exact absurd rfl (h _ rfl)
  · rfl

theorem afterOpening?_of_head {s : Text} (h : ∀ r ∈ s.head?, r ≠ ⟨0x28⟩) :
    afterOpening? s = none := by
  unfold afterOpening?
  split
  · exact absurd rfl (h _ rfl)
  · rfl

theorem afterOpening?_open (s : Text) :
    afterOpening? (⟨0x28⟩ :: s) =
      if (s.takeWhile Rune.isHexDigit).isEmpty then none
      else afterDigits? (s.dropWhile Rune.isHexDigit) := rfl

theorem afterSeparator?_slashes (s : Text) :
    afterSeparator? (⟨0x2F⟩ :: ⟨0x2F⟩ :: s) =
      if (s.takeWhile isDash).length < 3 then none
      else afterOpening? ((s.dropWhile isDash).dropWhile Rune.isBlank) := by
  rw [afterSeparator?]
  rfl

theorem afterSeparator?_of_not_slashes {s : Text} (h : ¬[⟨0x2F⟩, ⟨0x2F⟩] <+: s) :
    afterSeparator? s = none := by
  unfold afterSeparator?
  split
  · next rest => exact absurd ⟨rest, rfl⟩ h
  · rfl

/-! ## Parts -/

theorem dropReturn_suffix (s : Text) : dropReturn s <:+ s := by
  unfold dropReturn
  split
  · exact List.suffix_cons _ _
  · exact List.suffix_rfl

theorem suffix_of_separatorEnd? {s rest : Text} (h : separatorEnd? s = some rest) :
    rest <:+ s := by
  unfold separatorEnd? at h
  dsimp only at h
  split at h
  · injection h with h
    subst h
    exact (dropReturn_suffix _).trans <| (List.dropWhile_suffix _).trans <|
      (List.dropWhile_suffix _).trans (List.dropWhile_suffix _)
  · split at h
    · injection h with h
      exact h ▸ List.drop_suffix _ _
    · simp at h

/-- A text that starts like a separator, with `token` in the place of the address and `tail` behind
the closing parenthesis. -/
def Placed (token tail s : Text) : Prop :=
  ∃ dashes blanks,
    s = ⟨0x2F⟩ :: ⟨0x2F⟩ :: dashes ++ blanks ++ ⟨0x28⟩ :: token ++ ⟨0x29⟩ :: tail ∧
      3 ≤ dashes.length ∧ (∀ r ∈ dashes, isDash r = true) ∧ ∀ r ∈ blanks, r.isBlank = true

def IsHexNumber (digits : Text) : Prop := digits ≠ [] ∧ ∀ r ∈ digits, r.isHexDigit = true

instance (digits : Text) : Decidable (IsHexNumber digits) :=
  inferInstanceAs (Decidable (_ ∧ ∀ r ∈ digits, _))

theorem Placed.append {token tail s : Text} (h : Placed token tail s) (w : Text) :
    Placed token (tail ++ w) (s ++ w) := by
  obtain ⟨dashes, blanks, rfl, hparts⟩ := h
  exact ⟨dashes, blanks, by simp, hparts⟩

theorem Placed.slashes {token tail s : Text} (h : Placed token tail s) :
    [⟨0x2F⟩, ⟨0x2F⟩] <+: s := by
  obtain ⟨dashes, blanks, rfl, -⟩ := h
  exact ⟨dashes ++ blanks ++ ⟨0x28⟩ :: token ++ ⟨0x29⟩ :: tail, by simp⟩

theorem Placed.tail_suffix {token tail s : Text} (h : Placed token tail s) : tail <:+ s := by
  obtain ⟨dashes, blanks, rfl, -⟩ := h
  exact (List.suffix_cons _ _).trans (List.suffix_append _ _)

theorem Placed.afterSeparator? {token tail s : Text} (h : Placed token tail s) :
    afterSeparator? s = afterOpening? (⟨0x28⟩ :: token ++ ⟨0x29⟩ :: tail) := by
  obtain ⟨dashes, blanks, rfl, hlength, hdashes, hblanks⟩ := h
  have hblank : ∀ r ∈ (⟨0x28⟩ :: token ++ ⟨0x29⟩ :: tail).head?, r.isBlank = false := by
    rintro r ⟨⟩
    decide
  have hdash : ∀ r ∈ (blanks ++ (⟨0x28⟩ :: token ++ ⟨0x29⟩ :: tail)).head?, isDash r = false :=
    Text.head?_append_of_not (fun r hr => isDash_of_isBlank (hblanks r hr))
      (by rintro r ⟨⟩; decide)
  simp only [List.cons_append, List.append_assoc] at hdash hblank ⊢
  rw [afterSeparator?_slashes, Text.takeWhile_append_of_all hdashes hdash, if_neg (by omega),
    Text.dropWhile_append_of_all hdashes hdash, Text.dropWhile_append_of_all hblanks hblank]

theorem afterOpening?_of_hex {digits : Text} (h : IsHexNumber digits) (tail : Text) :
    afterOpening? (⟨0x28⟩ :: digits ++ ⟨0x29⟩ :: tail) = separatorEnd? tail := by
  have hstop : ∀ r ∈ ((⟨0x29⟩ :: tail : Text)).head?, r.isHexDigit = false := by
    rintro r ⟨⟩
    decide
  rw [List.cons_append, afterOpening?_open, Text.takeWhile_append_of_all h.2 hstop,
    Text.dropWhile_append_of_all h.2 hstop, if_neg (by simpa using h.1)]
  rfl

theorem exists_of_afterOpening? {s rest : Text} (h : afterOpening? s = some rest) :
    ∃ digits tail, s = ⟨0x28⟩ :: digits ++ ⟨0x29⟩ :: tail ∧ IsHexNumber digits ∧
      separatorEnd? tail = some rest := by
  unfold afterOpening? at h
  split at h
  · next s =>
    split at h
    · simp at h
    · next hdigits =>
      unfold afterDigits? at h
      split at h
      · next tail hclose =>
        refine ⟨s.takeWhile Rune.isHexDigit, tail, ?_,
          ⟨by simpa using hdigits, fun r => List.mem_takeWhile_imp⟩, h⟩
        rw [List.cons_append, ← hclose, List.takeWhile_append_dropWhile]
      · simp at h
  · simp at h

/-- A separator is a text with a hexadecimal number in the place of the address, up to where
`separatorEnd?` ends it. -/
theorem afterSeparator?_eq_some_iff {s rest : Text} :
    afterSeparator? s = some rest ↔
      ∃ digits tail, Placed digits tail s ∧ IsHexNumber digits ∧
        separatorEnd? tail = some rest := by
  constructor
  · intro h
    by_cases hslashes : [⟨0x2F⟩, ⟨0x2F⟩] <+: s
    · obtain ⟨s, rfl⟩ := hslashes
      change afterSeparator? (⟨0x2F⟩ :: ⟨0x2F⟩ :: s) = some rest at h
      rw [afterSeparator?_slashes] at h
      split at h
      · simp at h
      · next hdashes =>
        obtain ⟨digits, tail, hopen, hdigits, hend⟩ := exists_of_afterOpening? h
        refine ⟨digits, tail, ⟨s.takeWhile isDash, (s.dropWhile isDash).takeWhile Rune.isBlank, ?_,
          by omega, fun r => List.mem_takeWhile_imp, fun r => List.mem_takeWhile_imp⟩, hdigits,
          hend⟩
        calc (⟨0x2F⟩ :: ⟨0x2F⟩ :: s : Text)
            = ⟨0x2F⟩ :: ⟨0x2F⟩ :: (s.takeWhile isDash ++ ((s.dropWhile isDash).takeWhile
                Rune.isBlank ++ (s.dropWhile isDash).dropWhile Rune.isBlank)) := by
              rw [List.takeWhile_append_dropWhile, List.takeWhile_append_dropWhile]
          _ = _ := by rw [hopen]; simp
    · rw [afterSeparator?_of_not_slashes hslashes] at h
      simp at h
  · rintro ⟨digits, tail, hplaced, hdigits, hend⟩
    rw [hplaced.afterSeparator?, afterOpening?_of_hex hdigits, hend]

/-! ## What follows -/

/-- A text behind which nothing can belong to a separator before it: it is empty or starts with a
line feed, and what is not white space in it starts with a slash. -/
structure Follows (w : Text) : Prop where
  lineFeed : ∀ r ∈ w.head?, r.code = 0x0A
  slash : ∀ r ∈ (w.dropWhile Rune.isBlank).head?, r = ⟨0x2F⟩

theorem follows_nil : Follows [] := ⟨by simp, by simp⟩

theorem Follows.stop {w : Text} (h : Follows w) {p : Rune → Bool}
    (hp : ∀ r, r.code = 0x0A → p r = false) : ∀ r ∈ w.head?, p r = false :=
  fun r hr => hp r (h.lineFeed r hr)

theorem isBlank_of_lineFeed {r : Rune} (h : r.code = 0x0A) : r.isBlank = true := by
  obtain ⟨code⟩ := r
  rw [show code = 0x0A from h]
  decide

theorem Follows.atLineEnd {w : Text} (h : Follows w) : atLineEnd (dropReturn w) = true := by
  cases w with
  | nil => rfl
  | cons r rest =>
    obtain ⟨code⟩ := r
    obtain rfl : code = 0x0A := h.lineFeed _ rfl
    rfl

theorem atLineEnd_dropReturn_append {w : Text} (h : Follows w) (t : Text) :
    Listing.atLineEnd (dropReturn (t ++ w)) = Listing.atLineEnd (dropReturn t) := by
  cases t with
  | nil => exact h.atLineEnd
  | cons r rest =>
    by_cases hr : r = ⟨0x0D⟩
    · subst hr
      cases rest with
      | nil =>
        show Listing.atLineEnd w = true
        cases w with
        | nil => rfl
        | cons r rest => simp [Listing.atLineEnd, h.lineFeed r rfl]
      | cons next more => rfl
    · rw [List.cons_append, dropReturn, dropReturn]
      · rfl
      · simpa using hr
      · simpa using hr

theorem takeWhile_reverse_lt_iff {s : Text} {p : Rune → Bool} :
    (s.reverse.takeWhile p).length < s.length ↔ ∃ r ∈ s, p r = false := by
  have hprefix : s.reverse.takeWhile p <+: s.reverse := List.takeWhile_prefix p
  have hlength : (s.reverse.takeWhile p).length ≤ s.length := by
    simpa using hprefix.length_le
  rw [Nat.lt_iff_le_and_ne, and_iff_right hlength]
  constructor
  · intro hne
    by_contra hall
    refine hne ?_
    rw [List.takeWhile_eq_self_iff.2, List.length_reverse]
    intro r hr
    simpa using fun hp => hall ⟨r, List.mem_reverse.1 hr, hp⟩
  · rintro ⟨r, hr, hp⟩ heq
    have hself : s.reverse.takeWhile p = s.reverse :=
      hprefix.eq_of_length (by rw [heq, List.length_reverse])
    have hall := List.takeWhile_eq_self_iff.1 hself r (List.mem_reverse.2 hr)
    rw [hp] at hall
    exact Bool.noConfusion hall

/-- A separator ends where dashes and blanks reach the end of a line, or at a line feed in the
white space. -/
theorem isSome_separatorEnd?_iff (s : Text) :
    (separatorEnd? s).isSome = true ↔
      atLineEnd (dropReturn (((s.dropWhile Rune.isBlank).dropWhile isDash).dropWhile
        isSpaceOrTab)) = true ∨ ∃ r ∈ s.takeWhile Rune.isBlank, r.code = 0x0A := by
  have hbreak : ((s.takeWhile Rune.isBlank).reverse.takeWhile fun r => r.code != 0x0A).length <
      (s.takeWhile Rune.isBlank).length ↔ ∃ r ∈ s.takeWhile Rune.isBlank, r.code = 0x0A := by
    rw [takeWhile_reverse_lt_iff]
    simp
  rw [← hbreak, separatorEnd?]
  dsimp only
  split
  · next hclosed => simp [hclosed]
  · next hopen =>
    split
    · next hlt => simp [hlt]
    · next hge => simp [hopen, hge]

theorem isSome_separatorEnd?_append {w : Text} (h : Follows w) (t : Text) :
    (separatorEnd? (t ++ w)).isSome = (separatorEnd? t).isSome := by
  rw [Bool.eq_iff_iff, isSome_separatorEnd?_iff, isSome_separatorEnd?_iff]
  by_cases hblank : ∀ r ∈ t, r.isBlank = true
  · -- white space up to what follows always ends a separator
    have hleft : t.dropWhile Rune.isBlank = [] := List.dropWhile_eq_nil_iff.2 hblank
    refine iff_of_true ?_ (.inl (by rw [hleft]; rfl))
    rw [List.dropWhile_append_of_pos hblank, List.takeWhile_append_of_pos hblank]
    cases w with
    | nil => exact .inl rfl
    | cons r rest =>
      refine .inr ⟨r, List.mem_append_right _ ?_, h.lineFeed r rfl⟩
      rw [List.takeWhile_cons_of_pos (isBlank_of_lineFeed (h.lineFeed r rfl))]
      exact List.mem_cons_self
  · have hsome : t.dropWhile Rune.isBlank ≠ [] := fun hnil =>
      hblank (List.dropWhile_eq_nil_iff.1 hnil)
    have hdash := h.stop (p := isDash) fun r hr => by simp [isDash, hr]
    have hspace := h.stop (p := isSpaceOrTab) fun r hr => by simp [isSpaceOrTab, hr]
    have htake : (t ++ w).takeWhile Rune.isBlank = t.takeWhile Rune.isBlank := by
      rw [List.takeWhile_append, if_neg]
      intro hlength
      refine hsome (List.dropWhile_eq_nil_iff.2 (List.takeWhile_eq_self_iff.1 ?_))
      exact (List.takeWhile_prefix _).eq_of_length hlength
    have hdrop : (t ++ w).dropWhile Rune.isBlank = t.dropWhile Rune.isBlank ++ w := by
      rw [List.dropWhile_append, if_neg]
      simpa using hsome
    rw [htake, hdrop, Text.dropWhile_append_of_stop hdash, Text.dropWhile_append_of_stop hspace,
      atLineEnd_dropReturn_append h]

theorem isSome_afterDigits?_append {w : Text} (h : Follows w) (v : Text) :
    (afterDigits? (v ++ w)).isSome = (afterDigits? v).isSome := by
  cases v with
  | nil =>
    rw [List.nil_append, afterDigits?_of_head]
    · rfl
    · rintro r hr rfl
      exact absurd (h.lineFeed _ hr) (by decide)
  | cons r rest =>
    by_cases hr : r = ⟨0x29⟩
    · subst hr
      exact isSome_separatorEnd?_append h rest
    · rw [afterDigits?_of_head (by simpa using hr), afterDigits?_of_head (by simpa using hr)]

theorem isSome_afterOpening?_append {w : Text} (h : Follows w) (v : Text) :
    (afterOpening? (v ++ w)).isSome = (afterOpening? v).isSome := by
  have hhex := h.stop (p := Rune.isHexDigit) fun r hr => by
    simp [Rune.isHexDigit, Rune.hexValue?, Rune.isAsciiDigit, Rune.within, hr]
  cases v with
  | nil =>
    rw [List.nil_append, afterOpening?_of_head]
    · rfl
    · rintro r hr rfl
      exact absurd (h.lineFeed _ hr) (by decide)
  | cons r rest =>
    by_cases hr : r = ⟨0x28⟩
    · subst hr
      rw [List.cons_append, afterOpening?_open, afterOpening?_open,
        Text.takeWhile_append_of_stop hhex, Text.dropWhile_append_of_stop hhex]
      split
      · rfl
      · exact isSome_afterDigits?_append h _
    · rw [afterOpening?_of_head (by simpa using hr), afterOpening?_of_head (by simpa using hr)]

theorem slashes_of_append {v w : Text} (hw : ∀ r ∈ w.head?, r.code = 0x0A)
    (h : [⟨0x2F⟩, ⟨0x2F⟩] <+: v ++ w) : [⟨0x2F⟩, ⟨0x2F⟩] <+: v := by
  have hhead : ∀ r ∈ w.head?, r ≠ ⟨0x2F⟩ := by
    rintro r hr rfl
    exact absurd (hw _ hr) (by decide)
  obtain ⟨s, hs⟩ := h
  rcases v with _ | ⟨r, _ | ⟨next, rest⟩⟩ <;>
    simp only [List.cons_append, List.nil_append, List.cons.injEq] at hs
  · exact absurd rfl (hhead ⟨0x2F⟩ (hs ▸ rfl))
  · exact absurd rfl (hhead ⟨0x2F⟩ (hs.2 ▸ rfl))
  · exact ⟨rest, by rw [← hs.1, ← hs.2.1]; rfl⟩

theorem isSome_afterSeparator?_append {w : Text} (h : Follows w) (v : Text) :
    (afterSeparator? (v ++ w)).isSome = (afterSeparator? v).isSome := by
  have hdash := h.stop (p := isDash) fun r hr => by simp [isDash, hr]
  by_cases hslashes : [⟨0x2F⟩, ⟨0x2F⟩] <+: v
  · obtain ⟨s, rfl⟩ := hslashes
    show (afterSeparator? (⟨0x2F⟩ :: ⟨0x2F⟩ :: (s ++ w))).isSome =
      (afterSeparator? (⟨0x2F⟩ :: ⟨0x2F⟩ :: s)).isSome
    rw [afterSeparator?_slashes, afterSeparator?_slashes, Text.takeWhile_append_of_stop hdash,
      Text.dropWhile_append_of_stop hdash]
    split
    · rfl
    · rw [List.dropWhile_append]
      split
      · next hblank =>
        -- the white space goes on, but no parenthesis follows it
        have hslash : ∀ r ∈ (w.dropWhile Rune.isBlank).head?, r ≠ ⟨0x28⟩ := by
          rintro r hr rfl
          exact absurd (h.slash _ hr) (by decide)
        rw [afterOpening?_of_head hslash, List.isEmpty_iff.1 hblank]
        rfl
      · exact isSome_afterOpening?_append h _
  · have hboth : ¬[⟨0x2F⟩, ⟨0x2F⟩] <+: v ++ w := fun hs =>
      hslashes (slashes_of_append h.lineFeed hs)
    rw [afterSeparator?_of_not_slashes hslashes, afterSeparator?_of_not_slashes hboth]

/-! ## Addresses -/

/-- What may stand between the closing parenthesis and the end of a separator. -/
def ClosesAddress (t : Text) : Prop :=
  (∀ r ∈ t, r.isBlank = true) ∨
    ∃ blanks dashes spaces, t = blanks ++ dashes ++ spaces ∧ (∀ r ∈ blanks, r.isBlank = true) ∧
      dashes ≠ [] ∧ (∀ r ∈ dashes, isDash r = true) ∧ ∀ r ∈ spaces, isSpaceOrTab r = true

/-- The same where the line may end with a carriage return. -/
def EndsSeparator (t : Text) : Prop :=
  ∃ blanks dashes spaces ending, t = blanks ++ dashes ++ spaces ++ ending ∧
    (∀ r ∈ blanks, r.isBlank = true) ∧ (∀ r ∈ dashes, isDash r = true) ∧
    (∀ r ∈ spaces, isSpaceOrTab r = true) ∧ (ending = [] ∨ ending = [⟨0x0D⟩])

/-- A separator in a text without carriage returns. -/
def IsAddress (a : Text) : Prop :=
  ∃ digits tail, Placed digits tail a ∧ IsHexNumber digits ∧ ClosesAddress tail

theorem exists_last_not {s : Text} {p : Rune → Bool}
    (h : (s.reverse.takeWhile p).length < s.length) :
    ∃ before r after, s = before ++ r :: after ∧ p r = false ∧
      before.length = s.length - (s.reverse.takeWhile p).length - 1 := by
  have hsplit := List.takeWhile_append_dropWhile (p := p) (l := s.reverse)
  have hlength := congrArg List.length hsplit
  have hhead := List.head?_dropWhile_not p s.reverse
  generalize s.reverse.takeWhile p = after at h hsplit hlength ⊢
  generalize s.reverse.dropWhile p = before at hsplit hlength hhead
  rw [List.length_append, List.length_reverse] at hlength
  cases before with
  | nil => rw [List.length_nil] at hlength; omega
  | cons r rest =>
    refine ⟨rest.reverse, r, after.reverse, ?_, by simpa using hhead, ?_⟩
    · rw [← List.reverse_inj, ← hsplit]
      simp
    · rw [List.length_cons] at hlength
      rw [List.length_reverse]
      omega

theorem code_of_atLineEnd {s : Text} (h : atLineEnd s = true) : ∀ r ∈ s.head?, r.code = 0x0A := by
  cases s with
  | nil => simp
  | cons r rest => simpa [atLineEnd] using h

theorem exists_dropReturn (s : Text) :
    ∃ ending, s = ending ++ dropReturn s ∧ (ending = [] ∨ ending = [⟨0x0D⟩]) := by
  unfold dropReturn
  split
  · exact ⟨_, rfl, .inr rfl⟩
  · exact ⟨[], rfl, .inl rfl⟩

theorem endsSeparator_of_separatorEnd? {s rest : Text} (h : separatorEnd? s = some rest) :
    ∃ t, s = t ++ rest ∧ EndsSeparator t ∧ atLineEnd rest = true := by
  have hsplit := List.takeWhile_append_dropWhile (p := Rune.isBlank) (l := s)
  have hblanks : ∀ r ∈ s.takeWhile Rune.isBlank, r.isBlank = true := fun r => List.mem_takeWhile_imp
  unfold separatorEnd? at h
  dsimp only at h
  generalize s.takeWhile Rune.isBlank = blanks at h hsplit hblanks
  generalize s.dropWhile Rune.isBlank = closing at h hsplit
  subst hsplit
  split at h
  · next hclosed =>
    injection h with h
    obtain ⟨ending, hending, hreturn⟩ :=
      exists_dropReturn ((closing.dropWhile isDash).dropWhile isSpaceOrTab)
    rw [h] at hending hclosed
    refine ⟨blanks ++ closing.takeWhile isDash ++
      (closing.dropWhile isDash).takeWhile isSpaceOrTab ++ ending, ?_,
      ⟨_, _, _, _, rfl, hblanks, fun r => List.mem_takeWhile_imp, fun r => List.mem_takeWhile_imp,
        hreturn⟩, hclosed⟩
    simp only [List.append_assoc, ← hending, List.takeWhile_append_dropWhile]
  · split at h
    · next hbreak =>
      injection h with h
      obtain ⟨before, r, after, rfl, hr, hlength⟩ := exists_last_not hbreak
      rw [← hlength, List.append_assoc, List.drop_left] at h
      subst h
      refine ⟨before, List.append_assoc _ _ _, ⟨before, [], [], [], by simp, fun x hx => ?_,
        by simp, by simp, .inl rfl⟩, by simpa [atLineEnd] using hr⟩
      exact hblanks x (List.mem_append_left _ hx)
    · simp at h

theorem EndsSeparator.closesAddress {t : Text} (h : EndsSeparator t)
    (hreturn : ∀ r ∈ t, r.code ≠ 0x0D) : ClosesAddress t := by
  obtain ⟨blanks, dashes, spaces, ending, rfl, hblanks, hdashes, hspaces, rfl | rfl⟩ := h
  · rw [List.append_nil]
    by_cases hnone : dashes = []
    · subst hnone
      rw [List.append_nil]
      exact .inl (List.forall_mem_append.2
        ⟨hblanks, fun r hr => isBlank_of_isSpaceOrTab (hspaces r hr)⟩)
    · exact .inr ⟨blanks, dashes, spaces, rfl, hblanks, hnone, hdashes, hspaces⟩
  · exact absurd rfl (hreturn ⟨0x0D⟩ (by simp))

/-- What may be read as a separator. -/
def IsSeparator (a : Text) : Prop :=
  ∃ digits tail, Placed digits tail a ∧ IsHexNumber digits ∧ EndsSeparator tail

theorem isSeparator_of_afterSeparator? {s rest : Text} (h : afterSeparator? s = some rest) :
    ∃ a, s = a ++ rest ∧ IsSeparator a ∧ atLineEnd rest = true := by
  obtain ⟨digits, tail, hplaced, hdigits, hend⟩ := afterSeparator?_eq_some_iff.1 h
  obtain ⟨t, rfl, ht, hrest⟩ := endsSeparator_of_separatorEnd? hend
  obtain ⟨dashes, blanks, rfl, hparts⟩ := hplaced
  exact ⟨⟨0x2F⟩ :: ⟨0x2F⟩ :: dashes ++ blanks ++ ⟨0x28⟩ :: digits ++ ⟨0x29⟩ :: t, by simp,
    ⟨digits, t, ⟨dashes, blanks, rfl, hparts⟩, hdigits, ht⟩, hrest⟩

theorem IsSeparator.isAddress {a : Text} (h : IsSeparator a) (hreturn : ∀ r ∈ a, r.code ≠ 0x0D) :
    IsAddress a := by
  obtain ⟨digits, tail, hplaced, hdigits, htail⟩ := h
  exact ⟨digits, tail, hplaced, hdigits,
    htail.closesAddress fun r hr => hreturn r (hplaced.tail_suffix.subset hr)⟩

theorem dropReturn_ending {ending rest : Text} (hending : ending = [] ∨ ending = [⟨0x0D⟩])
    (hrest : atLineEnd rest = true) : dropReturn (ending ++ rest) = rest := by
  obtain rfl | rfl := hending
  · cases rest with
    | nil => rfl
    | cons r rest =>
      obtain ⟨code⟩ := r
      obtain rfl : code = 0x0A := code_of_atLineEnd hrest _ rfl
      rfl
  · rfl

theorem separatorEnd?_dashes {blanks dashes spaces ending rest : Text}
    (hblanks : ∀ r ∈ blanks, r.isBlank = true) (hsome : dashes ≠ [])
    (hdashes : ∀ r ∈ dashes, isDash r = true) (hspaces : ∀ r ∈ spaces, isSpaceOrTab r = true)
    (hending : ending = [] ∨ ending = [⟨0x0D⟩]) (hrest : atLineEnd rest = true) :
    separatorEnd? (blanks ++ dashes ++ spaces ++ ending ++ rest) = some rest := by
  have hbreak : ∀ r ∈ (ending ++ rest).head?, isLineBreak r = true := by
    intro r hr
    obtain rfl | rfl := hending
    · simp [isLineBreak, code_of_atLineEnd hrest r hr]
    · obtain rfl : ⟨0x0D⟩ = r := by simpa using hr
      rfl
  have hdash : ∀ r ∈ (dashes ++ (spaces ++ (ending ++ rest))).head?, r.isBlank = false := by
    obtain ⟨r, more, rfl⟩ := List.exists_cons_of_ne_nil hsome
    rintro r ⟨⟩
    exact isBlank_of_isDash (hdashes r List.mem_cons_self)
  have hspace : ∀ r ∈ (spaces ++ (ending ++ rest)).head?, isDash r = false :=
    Text.head?_append_of_not
      (fun r hr => isDash_of_isBlank (isBlank_of_isSpaceOrTab (hspaces r hr)))
      fun r hr => isDash_of_isLineBreak (hbreak r hr)
  have hend : ∀ r ∈ (ending ++ rest).head?, isSpaceOrTab r = false :=
    fun r hr => isSpaceOrTab_of_isLineBreak (hbreak r hr)
  simp only [List.append_assoc]
  unfold separatorEnd?
  dsimp only
  rw [Text.dropWhile_append_of_all hblanks hdash, Text.dropWhile_append_of_all hdashes hspace,
    Text.dropWhile_append_of_all hspaces hend, dropReturn_ending hending hrest, if_pos hrest]

theorem separatorEnd?_closes {t : Text} (ht : ClosesAddress t) (v : Text) :
    separatorEnd? (t ++ ⟨0x0A⟩ :: ⟨0x2F⟩ :: v) = some (⟨0x0A⟩ :: ⟨0x2F⟩ :: v) := by
  rcases ht with hblank | ⟨blanks, dashes, spaces, rfl, hblanks, hsome, hdashes, hspaces⟩
  · -- the white space goes on to the slash, and its last line feed is the one before it
    have hall : ∀ r ∈ t ++ [⟨0x0A⟩], r.isBlank = true := by
      simp only [List.forall_mem_append, List.forall_mem_singleton]
      exact ⟨hblank, by decide⟩
    have hstop : ∀ r ∈ ((⟨0x2F⟩ :: v : Text)).head?, r.isBlank = false := by
      rintro r ⟨⟩
      decide
    have hopen : atLineEnd (dropReturn (((⟨0x2F⟩ :: v : Text).dropWhile isDash).dropWhile
        isSpaceOrTab)) = false := rfl
    have hlast : (t ++ [(⟨0x0A⟩ : Rune)]).reverse.takeWhile (fun r => r.code != 0x0A) = [] := by
      simp
    rw [show t ++ ⟨0x0A⟩ :: ⟨0x2F⟩ :: v = (t ++ [⟨0x0A⟩]) ++ ⟨0x2F⟩ :: v by simp]
    unfold separatorEnd?
    dsimp only
    rw [Text.takeWhile_append_of_all hall hstop, Text.dropWhile_append_of_all hall hstop, hopen,
      hlast]
    simp
  · have hend : separatorEnd? (blanks ++ dashes ++ spaces ++ [] ++ ⟨0x0A⟩ :: ⟨0x2F⟩ :: v) = _ :=
      separatorEnd?_dashes hblanks hsome hdashes hspaces (.inl rfl) rfl
    rwa [List.append_nil] at hend

/-- An address on a line of its own, above a line that starts with a slash. -/
theorem afterSeparator?_address {a : Text} (ha : IsAddress a) (v : Text) :
    afterSeparator? (a ++ ⟨0x0A⟩ :: ⟨0x2F⟩ :: v) = some (⟨0x0A⟩ :: ⟨0x2F⟩ :: v) := by
  obtain ⟨digits, tail, hplaced, hdigits, htail⟩ := ha
  exact afterSeparator?_eq_some_iff.2
    ⟨digits, _, hplaced.append _, hdigits, separatorEnd?_closes htail v⟩

end Nomenclator.Listing

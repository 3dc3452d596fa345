import Nomenclator.Proofs.Json.Grammar

/-!
# Nesting

Only brackets can be nested too deep. A text with no more brackets than the limit is read to its
end or found malformed, and one that opens too many at its start is refused.
-/

namespace Nomenclator.Json

def isBracket (r : Rune) : Bool := r.code == 0x5B || r.code == 0x7B

/-- How many brackets open in the text, those inside strings included. -/
def bracketCount (s : Text) : Nat := s.countP isBracket

theorem bracketCount_append (s t : Text) :
    bracketCount (s ++ t) = bracketCount s + bracketCount t := List.countP_append

theorem bracketCount_cons_of_isBracket {r : Rune} (hr : isBracket r = true) (t : Text) :
    bracketCount (r :: t) = bracketCount t + 1 := List.countP_cons_of_pos hr

theorem bracketCount_le_of_suffix {s t : Text} (h : s <:+ t) : bracketCount s ≤ bracketCount t :=
  h.sublist.countP_le

theorem skipBlanks_suffix (s : Text) : skipBlanks s <:+ s := List.dropWhile_suffix _

theorem suffix_after_mark {s after : Text} {r : Rune} (h : skipBlanks s = r :: after) :
    skipBlanks after <:+ s ∧ (skipBlanks after).length < s.length := by
  have hafter : r :: after <:+ s := h ▸ skipBlanks_suffix s
  refine ⟨(skipBlanks_suffix after).trans ((List.suffix_cons r after).trans hafter), ?_⟩
  have h1 := length_skipBlanks_le after
  have h2 := hafter.length_le
  rw [List.length_cons] at h2
  omega

/-! ## Where nothing nests -/

theorem readString_ne_tooDeep (opening taken s : Text) (waiting : Option Nat) :
    readString opening taken waiting s ≠ .error .tooDeep := by
  fun_induction readString opening taken waiting s <;> simp_all

theorem readNumber?_ne_tooDeep (negative : Bool) (s rest : Text) :
    readNumber? negative s ≠ some (.error .tooDeep, rest) := by
  intro h
  unfold readNumber? at h
  split at h
  · simp at h
  · dsimp only at h
    split_ifs at h <;> simp at h

theorem plainAt_ne_tooDeep (s : Text) : plainAt s ≠ .error .tooDeep := by
  intro h
  cases hword : wordAt? s with
  | some entry => simp [plainAt_word hword] at h
  | none =>
    rw [plainAt_number hword] at h
    split at h
    · next outcome rest hnumber =>
      obtain rfl : outcome = .error .tooDeep := by
        cases outcome with
        | ok v => simp [Except.map] at h
        | error stop => simpa [Except.map] using h
      unfold numberAt? at hnumber
      split at hnumber <;> exact readNumber?_ne_tooDeep _ _ _ hnumber
    · simp at h

theorem nameAt_ne_tooDeep (s : Text) : nameAt s ≠ .error .tooDeep := by
  intro h
  by_cases hquote : ∃ t, s = ⟨0x22⟩ :: t
  · obtain ⟨t, rfl⟩ := hquote
    rw [nameAt_quote] at h
    split at h
    · next stop hread =>
      injection h with h
      subst h
      exact readString_ne_tooDeep _ _ _ _ hread
    · split at h <;> simp at h
  · rw [nameAt_of_ne_quote fun t ht => hquote ⟨t, ht⟩] at h
    simp at h

/-! ## Few brackets -/

theorem map_eq_error {α β : Type} {x : Except Stop α} {f : α → β} {stop : Stop} :
    x.map f = .error stop ↔ x = .error stop := by
  cases x <;> simp [Except.map]

def ValueBounded (depth : Nat) (s : Text) : Prop :=
  valueAt depth s = .error .tooDeep → depth < bracketCount s

def ItemsBounded (depth : Nat) (s : Text) : Prop :=
  ∀ items, itemsAt depth items s = .error .tooDeep → depth < bracketCount s

def MembersBounded (depth : Nat) (s : Text) : Prop :=
  ∀ entries, membersAt depth entries s = .error .tooDeep → depth < bracketCount s

theorem valueBounded_of_shorter {s : Text}
    (ih : ∀ s' : Text, s'.length < s.length →
      ∀ depth, ItemsBounded depth s' ∧ MembersBounded depth s')
    (depth : Nat) : ValueBounded depth s := by
  intro h
  by_cases hplain : StopsAt isOpening s
  · rw [valueAt_plain hplain] at h
    exact absurd h (plainAt_ne_tooDeep s)
  · obtain ⟨r, t, rfl, hr⟩ : ∃ r t, s = r :: t ∧ isOpening r = true := by
      cases s with
      | nil => exact absurd (stopsAt_nil _) hplain
      | cons r t => exact ⟨r, t, rfl, by simpa [stopsAt_cons] using hplain⟩
    have hshorter : (skipBlanks t).length < (r :: t).length :=
      Nat.lt_succ_of_le (length_skipBlanks_le t)
    have hfewer := bracketCount_le_of_suffix (skipBlanks_suffix t)
    obtain ⟨n⟩ := r
    simp only [isOpening, Bool.or_eq_true, beq_iff_eq] at hr
    rcases hr with (rfl | rfl) | rfl
    · rw [valueAt_quote, map_eq_error] at h
      exact absurd h (readString_ne_tooDeep _ _ _ _)
    · rw [bracketCount_cons_of_isBracket rfl]
      cases depth with
      | zero => exact Nat.succ_pos _
      | succ depth =>
        rw [valueAt_bracket] at h
        split at h
        · simp at h
        · have := (ih _ hshorter depth).1 _ (map_eq_error.1 h)
          omega
    · rw [bracketCount_cons_of_isBracket rfl]
      cases depth with
      | zero => exact Nat.succ_pos _
      | succ depth =>
        rw [valueAt_brace] at h
        split at h
        · simp at h
        · have := (ih _ hshorter depth).2 _ (map_eq_error.1 h)
          omega

theorem itemsBounded_of_shorter {depth : Nat} {s : Text} (hvalue : ValueBounded depth s)
    (ih : ∀ s' : Text, s'.length < s.length → ItemsBounded depth s') : ItemsBounded depth s := by
  intro items h
  rw [itemsAt_eq] at h
  split at h
  · next stop hstop =>
    injection h with h
    subst h
    exact hvalue hstop
  · next item rest hitem =>
    obtain ⟨p, rfl, -⟩ := valueAt_sound hitem
    split at h
    · simp at h
    · next after hcomma =>
      obtain ⟨hsuffix, hlt⟩ := suffix_after_mark hcomma
      have hrest : rest <:+ p ++ rest := List.suffix_append _ _
      have hbound := ih _ (hlt.trans_le hrest.length_le) _ h
      exact hbound.trans_le (bracketCount_le_of_suffix (hsuffix.trans hrest))
    · simp at h

theorem membersBounded_of_shorter {depth : Nat} {s : Text}
    (ih : ∀ s' : Text, s'.length < s.length → ValueBounded depth s' ∧ MembersBounded depth s') :
    MembersBounded depth s := by
  intro entries h
  rw [membersAt_eq] at h
  split at h
  · next stop hstop =>
    injection h with h
    subst h
    exact absurd hstop (nameAt_ne_tooDeep s)
  · next name rest hname =>
    obtain ⟨n, rfl, hn⟩ := nameAt_spec hname
    have hrest : skipBlanks rest <:+ n ++ rest :=
      (skipBlanks_suffix rest).trans (List.suffix_append _ _)
    have hlt : (skipBlanks rest).length < (n ++ rest).length := by
      have h1 := length_skipBlanks_le rest
      have h2 := hn.length_pos
      rw [List.length_append]
      omega
    split at h
    · next stop hstop =>
      injection h with h
      subst h
      exact ((ih _ hlt).1 hstop).trans_le (bracketCount_le_of_suffix hrest)
    · next value rest' hvalue =>
      obtain ⟨p, hp, -⟩ := valueAt_sound hvalue
      split at h
      · simp at h
      · next after hcomma =>
        obtain ⟨hsuffix, hlt'⟩ := suffix_after_mark hcomma
        have hrest' : rest' <:+ n ++ rest := (hp ▸ List.suffix_append p rest').trans hrest
        have hbound := (ih _ (hlt'.trans_le hrest'.length_le)).2 _ h
        exact hbound.trans_le (bracketCount_le_of_suffix (hsuffix.trans hrest'))
      · simp at h

theorem readers_bounded (s : Text) :
    ∀ depth, ValueBounded depth s ∧ ItemsBounded depth s ∧ MembersBounded depth s := by
  induction hn : s.length using Nat.strong_induction_on generalizing s with
  | _ n ih =>
    subst hn
    have shorter : ∀ s' : Text, s'.length < s.length → ∀ depth,
        ValueBounded depth s' ∧ ItemsBounded depth s' ∧ MembersBounded depth s' :=
      fun s' h => ih _ h s' rfl
    intro depth
    have hvalue := valueBounded_of_shorter (fun s' h depth => (shorter s' h depth).2) depth
    exact ⟨hvalue, itemsBounded_of_shorter hvalue fun s' h => (shorter s' h depth).2.1,
      membersBounded_of_shorter fun s' h => ⟨(shorter s' h depth).1, (shorter s' h depth).2.2⟩⟩

/-- A text with no more brackets than may be open at once is never nested too deep. -/
theorem decode_ne_tooDeep {s : Text} (h : bracketCount s ≤ nestingLimit) :
    decode s ≠ .error .tooDeep := by
  intro hdeep
  by_cases hmark : ∃ t, s = ⟨0xFEFF⟩ :: t
  · obtain ⟨t, rfl⟩ := hmark
    simp [decode] at hdeep
  · rw [decode_eq fun t ht => hmark ⟨t, ht⟩] at hdeep
    split at hdeep
    · next stop hstop =>
      injection hdeep with hdeep
      subst hdeep
      have hbound := (readers_bounded _ _).1 hstop
      have hfewer := bracketCount_le_of_suffix (skipBlanks_suffix s)
      omega
    · split at hdeep <;> simp at hdeep

/-! ## Many brackets -/

theorem valueAt_replicate_bracket (depth : Nat) (t : Text) :
    valueAt depth (List.replicate (depth + 1) ⟨0x5B⟩ ++ t) = .error .tooDeep := by
  induction depth with
  | zero => exact valueAt_bracket_zero _
  | succ depth ih =>
    rw [List.replicate_succ, List.cons_append, valueAt_bracket]
    have hstart : skipBlanks (List.replicate (depth + 1) ⟨0x5B⟩ ++ t) =
        List.replicate (depth + 1) ⟨0x5B⟩ ++ t := by
      rw [List.replicate_succ]
      rfl
    rw [hstart]
    split
    · next hclose =>
      rw [List.replicate_succ] at hclose
      injection hclose with hclose
      exact absurd hclose (by decide)
    · rw [itemsAt_eq, ih]
      rfl

theorem decode_replicate_bracket (t : Text) :
    decode (List.replicate (nestingLimit + 1) ⟨0x5B⟩ ++ t) = .error .tooDeep := by
  have hstart : skipBlanks (List.replicate (nestingLimit + 1) ⟨0x5B⟩ ++ t) =
      List.replicate (nestingLimit + 1) ⟨0x5B⟩ ++ t := by
    rw [List.replicate_succ]
    rfl
  rw [decode_eq, hstart, valueAt_replicate_bracket]
  intro u hu
  rw [List.replicate_succ] at hu
  injection hu with hu
  exact absurd hu (by decide)

end Nomenclator.Json

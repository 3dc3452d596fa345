import Nomenclator.Proofs.Json.Number

/-!
# Words, numbers and strings in their surroundings

A word, a number or a string is a stretch of the text. It is read as the same value wherever it
stands, a number as long as nothing follows that it could go on with.
-/

namespace Nomenclator.Json

/-- The value and what follows it, without the evidence that something was taken. -/
def Taken.cut {α : Type} {s : Text} (taken : Taken α s) : α × Text := (taken.value, taken.rest)

/-! ## Words and numbers -/

/-- The word or the number at the start of `s`, and what follows it. -/
def plainAt (s : Text) : Except Stop (Value × Text) := (readPlain s).map Taken.cut

/-- The word of the dialect with which `s` starts. -/
def wordAt? (s : Text) : Option (Text × Value) := wordValues.find? fun word => word.1.isPrefixOf s

theorem plainAt_word {s word : Text} {v : Value} (h : wordAt? s = some (word, v)) :
    plainAt s = .ok (v, s.drop word.length) := by
  have hprefix : word <+: s := by simpa using List.find?_some h
  have hne : word ≠ [] := by
    have hmem := List.mem_of_find?_eq_some h
    rintro rfl
    simp [wordValues, Text.ofString] at hmem
  have hshorter : (s.drop word.length).length < s.length := by
    have h1 := hprefix.length_le
    have h2 := List.length_pos_iff.2 hne
    rw [List.length_drop]
    omega
  unfold plainAt readPlain
  rw [wordAt?] at h
  simp only [h, dif_pos hshorter]
  rfl

/-- The number at the start of `s`, with its sign. -/
def numberAt? : Text → Option (Except Stop Value × Text)
  | ⟨0x2D⟩ :: digits => readNumber? true digits
  | s => readNumber? false s

theorem plainAt_number {s : Text} (h : wordAt? s = none) :
    plainAt s =
      match numberAt? s with
      | some (v, rest) => v.map fun v => (v, rest)
      | none => .error (.malformed .value s) := by
  unfold plainAt readPlain numberAt?
  rw [wordAt?] at h
  simp only [h]
  split <;> (split <;> simp_all [Except.map, Taken.cut])

theorem numberAt?_spec {s rest : Text} {v : Value} (h : numberAt? s = some (.ok v, rest)) :
    ∃ p, s = p ++ rest ∧ (∀ r ∈ p, isNumberRune r = true) ∧
      (∃ d ∈ p.take 2, d.isAsciiDigit = true) ∧
      ∀ t, StopsAt extendsNumber t → numberAt? (p ++ t) = some (.ok v, t) := by
  unfold numberAt? at h
  split at h
  · obtain ⟨p, rfl, hrunes, ⟨d, hd, hdigit⟩, hread⟩ := readNumber?_spec h
    obtain ⟨more, rfl⟩ := List.head?_eq_some_iff.1 hd
    refine ⟨⟨0x2D⟩ :: d :: more, rfl, ?_, ⟨d, by simp, hdigit⟩, hread⟩
    intro r hr
    rcases List.mem_cons.1 hr with rfl | hr
    · rfl
    · exact hrunes r hr
  · obtain ⟨p, rfl, hrunes, ⟨d, hd, hdigit⟩, hread⟩ := readNumber?_spec h
    obtain ⟨more, rfl⟩ := List.head?_eq_some_iff.1 hd
    refine ⟨d :: more, rfl, hrunes, ⟨d, by simp, hdigit⟩, fun t ht => ?_⟩
    rw [← hread t ht]
    refine numberAt?.eq_2 _ fun u hu => ?_
    injection hu with hu
    subst hu
    exact absurd hdigit (by decide)

/-- The characters that open a string, a list or a table. -/
def isOpening (r : Rune) : Bool := r.code == 0x22 || r.code == 0x5B || r.code == 0x7B

/-- The characters between words and numbers. -/
def isMark (r : Rune) : Bool :=
  isBlank r || isOpening r || r.code == 0x5D || r.code == 0x7D || r.code == 0x2C || r.code == 0x3A

/-- The text `p` is a word or a number that stands for `v`. -/
structure IsPlain (p : Text) (v : Value) : Prop where
  nonempty : p ≠ []
  unmarked : ∀ r ∈ p, isMark r = false
  read : ∀ t, StopsAt extendsNumber t → plainAt (p ++ t) = .ok (v, t)

theorem isPlain_word {word : Text} {v : Value} (h : (word, v) ∈ wordValues) : IsPlain word v := by
  have read : ∀ t, wordAt? (word ++ t) = some (word, v) → plainAt (word ++ t) = .ok (v, t) := by
    intro t ht
    rw [plainAt_word ht, List.drop_left]
  simp only [wordValues, List.mem_cons, Prod.mk.injEq, List.not_mem_nil, or_false] at h
  rcases h with ⟨rfl, rfl⟩ | ⟨rfl, rfl⟩ | ⟨rfl, rfl⟩ | ⟨rfl, rfl⟩ | ⟨rfl, rfl⟩ | ⟨rfl, rfl⟩
  all_goals exact ⟨by decide, by decide, fun t _ => read t rfl⟩

theorem isMark_of_isNumberRune {r : Rune} (h : isNumberRune r = true) : isMark r = false := by
  simp only [isNumberRune, isPoint, isSign, Bool.or_eq_true, isExponentMark_iff, beq_iff_eq,
    Rune.isAsciiDigit, Rune.within, Bool.and_eq_true, decide_eq_true_eq] at h
  simp only [isMark, isBlank, isOpening, Rune.within, Bool.or_eq_false_iff, beq_eq_false_iff_ne,
    Bool.and_eq_false_iff, decide_eq_false_iff_not]
  rcases h with ((h | h) | rfl | rfl) | h | h
  · omega
  · omega
  · decide
  · decide
  · omega
  · omega

theorem wordValues_no_digit :
    ∀ word ∈ wordValues, ∃ a b more, word.1 = a :: b :: more ∧
      a.isAsciiDigit = false ∧ b.isAsciiDigit = false := by
  intro word h
  simp only [wordValues, List.mem_cons, List.not_mem_nil, or_false] at h
  rcases h with rfl | rfl | rfl | rfl | rfl | rfl
  all_goals exact ⟨_, _, _, rfl, by decide, by decide⟩

theorem wordAt?_eq_none_of_digit {d : Rune} {s : Text} (hd : d.isAsciiDigit = true)
    (hs : d ∈ s.take 2) : wordAt? s = none := by
  rw [wordAt?, List.find?_eq_none]
  intro word hword hprefix
  obtain ⟨a, b, more, heq, ha, hb⟩ := wordValues_no_digit word hword
  obtain ⟨t, rfl⟩ : word.1 <+: s := by simpa using hprefix
  rw [heq] at hs
  simp only [List.cons_append, List.take_succ_cons, List.take_zero, List.mem_cons,
    List.not_mem_nil, or_false] at hs
  rcases hs with rfl | rfl
  · rw [ha] at hd
    exact Bool.false_ne_true hd
  · rw [hb] at hd
    exact Bool.false_ne_true hd

theorem plainAt_spec {s rest : Text} {v : Value} (h : plainAt s = .ok (v, rest)) :
    ∃ p, s = p ++ rest ∧ IsPlain p v := by
  cases hword : wordAt? s with
  | some entry =>
    obtain ⟨word, v'⟩ := entry
    rw [plainAt_word hword] at h
    injection h with h
    injection h with hv hrest
    subst hv hrest
    have hprefix : word <+: s := by simpa using List.find?_some hword
    exact ⟨word, (List.prefix_iff_eq_append.1 hprefix).symm,
      isPlain_word (List.mem_of_find?_eq_some hword)⟩
  | none =>
    rw [plainAt_number hword] at h
    split at h
    · next outcome rest' hnumber =>
      obtain ⟨v, rfl⟩ : ∃ v, outcome = .ok v := by
        cases outcome with
        | ok v => exact ⟨v, rfl⟩
        | error stop => exact absurd h (by simp [Except.map])
      injection h with h
      injection h with hv hrest
      subst hv hrest
      obtain ⟨p, rfl, hrunes, ⟨d, hd, hdigit⟩, hread⟩ := numberAt?_spec hnumber
      refine ⟨p, rfl, ?_, fun r hr => isMark_of_isNumberRune (hrunes r hr), fun t ht => ?_⟩
      · rintro rfl
        simp at hd
      · have hd' : d ∈ (p ++ t).take 2 := by
          rw [List.take_append]
          exact List.mem_append_left _ hd
        rw [plainAt_number (wordAt?_eq_none_of_digit hdigit hd'), hread t ht]
        rfl
    · simp at h

/-! ## Strings -/

/-- The string ends with a quote, after which comes `rest`. What follows the quote has no part in
the content. -/
def ReadsUpTo (taken : Text) (waiting : Option Nat) (s content rest : Text) : Prop :=
  ∃ p, s = p ++ ⟨0x22⟩ :: rest ∧
    ∀ opening t, readString opening taken waiting (p ++ ⟨0x22⟩ :: t) = .ok (content, t)

theorem ReadsUpTo.push {taken taken' s content rest : Text} {waiting waiting' : Option Nat}
    (h : ReadsUpTo taken' waiting' s content rest) (front : Text)
    (step : ∀ opening r t, readString opening taken waiting (front ++ r :: t) =
      readString opening taken' waiting' (r :: t)) :
    ReadsUpTo taken waiting (front ++ s) content rest := by
  obtain ⟨p, rfl, hread⟩ := h
  refine ⟨front ++ p, by rw [List.append_assoc], fun opening t => ?_⟩
  rw [List.append_assoc, ← hread opening t]
  cases p with
  | nil => exact step opening _ _
  | cons r more => exact step opening _ _

theorem readString_spec {opening taken s content rest : Text} {waiting : Option Nat}
    (h : readString opening taken waiting s = .ok (content, rest)) :
    ReadsUpTo taken waiting s content rest := by
  fun_induction readString opening taken waiting s with
  | case2 taken waiting rest' =>
    injection h with h
    injection h with hcontent hrest
    subst hcontent hrest
    exact ⟨[], rfl, fun _ _ => rfl⟩
  | case5 taken a b c d next rest' n hn high hlow ih =>
    refine (ih h).push [⟨0x5C⟩, ⟨0x75⟩, a, b, c, d] fun opening' r t => ?_
    simp [readString, hn, hlow]
  | case6 taken a b c d next rest' n hn high hlow ih =>
    refine (ih h).push [⟨0x5C⟩, ⟨0x75⟩, a, b, c, d] fun opening' r t => ?_
    simp [readString, hn, hlow]
  | case7 taken a b c d next rest' n hn ih =>
    refine (ih h).push [⟨0x5C⟩, ⟨0x75⟩, a, b, c, d] fun opening' r t => ?_
    simp [readString, hn]
  | case9 taken waiting e rest' he r hr ih =>
    refine (ih h).push [⟨0x5C⟩, e] fun opening' r' t => ?_
    simp [readString, hr]
  | case12 taken waiting r rest' h1 h2 h3 h4 hcode ih =>
    have hslash : r ≠ ⟨0x5C⟩ := by
      rintro rfl
      cases rest' with
      | nil => exact h2 rfl rfl
      | cons e more => exact h4 e more rfl rfl
    refine (ih h).push [r] fun opening' r' t => ?_
    rw [List.singleton_append, readString, if_neg hcode]
    · exact h1
    all_goals
      intros
      exact hslash ‹_›
  | _ => simp at h

/-- The text `p` is a string in quotes with this content. -/
def IsQuoted (p content : Text) : Prop :=
  ∃ q, p = ⟨0x22⟩ :: (q ++ [⟨0x22⟩]) ∧
    ∀ opening t, readString opening [] none (q ++ ⟨0x22⟩ :: t) = .ok (content, t)

theorem isQuoted_of_readString {opening s content rest : Text}
    (h : readString opening [] none s = .ok (content, rest)) :
    ∃ p, ⟨0x22⟩ :: s = p ++ rest ∧ IsQuoted p content := by
  obtain ⟨q, rfl, hread⟩ := readString_spec h
  exact ⟨⟨0x22⟩ :: (q ++ [⟨0x22⟩]), by simp, q, rfl, hread⟩

end Nomenclator.Json

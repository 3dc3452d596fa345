import Mathlib.Data.List.TakeWhile
import Nomenclator.Json.Reader

/-!
# Numbers in their surroundings

How far a number goes is up to what follows it. What a reader took as a number is read as the same
number wherever something follows that no number goes on with.
-/

namespace Nomenclator.Json

/-! ## What follows -/

/-- The text does not go on with such a character. -/
def StopsAt (p : Rune → Bool) (t : Text) : Prop := ∀ r ∈ t.head?, p r = false

theorem stopsAt_nil (p : Rune → Bool) : StopsAt p [] := by simp [StopsAt]

theorem stopsAt_cons {p : Rune → Bool} {r : Rune} {t : Text} :
    StopsAt p (r :: t) ↔ p r = false := by simp [StopsAt]

theorem stopsAt_append {p : Rune → Bool} {a t : Text} (ha : StopsAt p a) (ht : StopsAt p t) :
    StopsAt p (a ++ t) := by
  cases a with
  | nil => exact ht
  | cons r rest => exact stopsAt_cons.2 (stopsAt_cons.1 ha)

theorem stopsAt_dropWhile (p : Rune → Bool) (t : Text) : StopsAt p (t.dropWhile p) := by
  intro r hr
  have := List.head?_dropWhile_not p t
  rw [Option.mem_def.1 hr] at this
  simpa using this

def isExponentMark (r : Rune) : Bool := r == 'e' || r == 'E'

def isPoint (r : Rune) : Bool := r.code == 0x2E

def isSign (r : Rune) : Bool := r.code == 0x2B || r.code == 0x2D

/-- The characters of numbers. -/
def isNumberRune (r : Rune) : Bool :=
  r.isAsciiDigit || isPoint r || isExponentMark r || isSign r

/-- The characters with which the digits before an exponent could go on. -/
def extendsDigits (r : Rune) : Bool := r.isAsciiDigit || isPoint r

/-- The characters with which a number could go on. -/
def extendsNumber (r : Rune) : Bool := extendsDigits r || isExponentMark r

theorem StopsAt.mono {p q : Rune → Bool} {t : Text} (hpq : ∀ r, p r = true → q r = true)
    (h : StopsAt q t) : StopsAt p t := by
  intro r hr
  have hq := h r hr
  cases hp : p r with
  | false => rfl
  | true => rw [hpq r hp] at hq; exact hq

/-! ## Digits -/

theorem takeAsciiDigits_append {ds t : Text} (hds : ∀ r ∈ ds, r.isAsciiDigit = true)
    (ht : StopsAt Rune.isAsciiDigit t) : takeAsciiDigits (ds ++ t) = (ds, t) := by
  rw [takeAsciiDigits, List.takeWhile_append_of_pos hds, List.dropWhile_append_of_pos hds]
  cases t with
  | nil => simp
  | cons r rest =>
    have hr := stopsAt_cons.1 ht
    rw [List.takeWhile_cons_of_neg (by simp [hr]), List.dropWhile_cons_of_neg (by simp [hr]),
      List.append_nil]

theorem takeAsciiDigits_spec {s ds rest : Text} (h : takeAsciiDigits s = (ds, rest)) :
    s = ds ++ rest ∧ (∀ r ∈ ds, r.isAsciiDigit = true) ∧ StopsAt Rune.isAsciiDigit rest := by
  unfold takeAsciiDigits at h
  injection h with h1 h2
  subst h1 h2
  exact ⟨List.takeWhile_append_dropWhile.symm, fun r hr => List.mem_takeWhile_imp hr,
    stopsAt_dropWhile _ _⟩

/-! ## Parts of a number -/

theorem takeWhole_spec {s whole rest : Text} (h : takeWhole s = (whole, rest)) (hne : whole ≠ []) :
    s = whole ++ rest ∧ (∀ r ∈ whole, r.isAsciiDigit = true) ∧
      ∀ t, StopsAt Rune.isAsciiDigit t → takeWhole (whole ++ t) = (whole, t) := by
  unfold takeWhole at h
  split at h
  · injection h with h1 h2
    subst h1 h2
    refine ⟨rfl, by simp [Rune.isAsciiDigit, Rune.within], fun t _ => rfl⟩
  · next hzero =>
    obtain ⟨rfl, hds, -⟩ := takeAsciiDigits_spec h
    refine ⟨rfl, hds, fun t ht => ?_⟩
    obtain ⟨d, more, rfl⟩ := List.exists_cons_of_ne_nil hne
    have hd : d ≠ ⟨0x30⟩ := by
      rintro rfl
      exact hzero _ rfl
    rw [takeWhole]
    · exact takeAsciiDigits_append hds ht
    · intro u hu
      injection hu with hu _
      exact hd hu

theorem takeFraction_of_stopsAt {t : Text} (ht : StopsAt isPoint t) :
    takeFraction t = ([], t) := by
  unfold takeFraction
  split
  · simp [stopsAt_cons, isPoint] at ht
  · rfl

theorem takeFraction_spec {s fraction rest : Text} (h : takeFraction s = (fraction, rest)) :
    ∃ p, s = p ++ rest ∧ (∀ r ∈ p, isNumberRune r = true) ∧ StopsAt Rune.isAsciiDigit p ∧
      ∀ t, StopsAt extendsDigits t → takeFraction (p ++ t) = (fraction, t) := by
  have absent : ∀ t, StopsAt extendsDigits t → takeFraction ([] ++ t) = ([], t) := fun t ht =>
    takeFraction_of_stopsAt (ht.mono fun r hr => by simp [extendsDigits, hr])
  unfold takeFraction at h
  split at h
  · next digits =>
    split at h
    · injection h with h1 h2
      subst h1 h2
      exact ⟨[], rfl, by simp, stopsAt_nil _, absent⟩
    · next hne =>
      obtain ⟨hs, hds, -⟩ := takeAsciiDigits_spec h
      refine ⟨⟨0x2E⟩ :: fraction, by rw [hs, List.cons_append], ?_,
        stopsAt_cons.2 (by decide), fun t ht => ?_⟩
      · intro r hr
        rcases List.mem_cons.mp hr with rfl | hr
        · rfl
        · simp [isNumberRune, hds r hr]
      · have hmore := takeAsciiDigits_append hds
          (ht.mono fun r hr => by simp [extendsDigits, hr])
        rw [List.cons_append, takeFraction, hmore]
        cases fraction with
        | nil => exact absurd h (hne _)
        | cons d more => rfl
  · injection h with h1 h2
    subst h1 h2
    exact ⟨[], rfl, by simp, stopsAt_nil _, absent⟩

theorem isExponentMark_iff {r : Rune} : isExponentMark r = true ↔ r = 'e' ∨ r = 'E' := by
  simp [isExponentMark]

theorem takeExponent_of_stopsAt {t : Text} (ht : StopsAt isExponentMark t) :
    takeExponent t = (none, t) := by
  cases t with
  | nil => rfl
  | cons e rest =>
    have he : ¬(e = 'e' ∨ e = 'E') := by
      rw [← isExponentMark_iff, stopsAt_cons.1 ht]
      exact Bool.false_ne_true
    rw [takeExponent, if_neg he]

theorem takeSign_spec (s : Text) :
    ∃ p, s = p ++ (takeSign s).2 ∧ (∀ r ∈ p, isNumberRune r = true) ∧
      ∀ t, StopsAt isSign t → takeSign (p ++ t) = ((takeSign s).1, t) := by
  unfold takeSign
  split
  · exact ⟨[⟨0x2D⟩], rfl, by decide, fun t _ => rfl⟩
  · exact ⟨[⟨0x2B⟩], rfl, by decide, fun t _ => rfl⟩
  · refine ⟨[], rfl, by simp, fun t ht => ?_⟩
    rw [List.nil_append]
    split
    · simp [stopsAt_cons, isSign] at ht
    · simp [stopsAt_cons, isSign] at ht
    · rfl

theorem takeExponent_spec {s rest : Text} {exponent : Option Int}
    (h : takeExponent s = (exponent, rest)) :
    ∃ p, s = p ++ rest ∧ (∀ r ∈ p, isNumberRune r = true) ∧ StopsAt extendsDigits p ∧
      ∀ t, StopsAt extendsNumber t → takeExponent (p ++ t) = (exponent, t) := by
  have absent : ∀ t, StopsAt extendsNumber t → takeExponent ([] ++ t) = (none, t) := fun t ht =>
    takeExponent_of_stopsAt (ht.mono fun r hr => by simp [extendsNumber, hr])
  by_cases hmark : StopsAt isExponentMark s
  · rw [takeExponent_of_stopsAt hmark] at h
    injection h with h1 h2
    subst h1 h2
    exact ⟨[], rfl, by simp, stopsAt_nil _, absent⟩
  · obtain ⟨e, after, rfl, he⟩ : ∃ e after, s = e :: after ∧ isExponentMark e = true := by
      cases s with
      | nil => exact absurd (stopsAt_nil _) hmark
      | cons e after => exact ⟨e, after, rfl, by simpa [stopsAt_cons] using hmark⟩
    obtain ⟨sign, hsign, hsignRunes, hsignLocal⟩ := takeSign_spec after
    rw [takeExponent, if_pos (isExponentMark_iff.1 he)] at h
    split at h
    · injection h with h1 h2
      subst h1 h2
      exact ⟨[], rfl, by simp, stopsAt_nil _, absent⟩
    · next digits rest' hne hds =>
      injection h with h1 h2
      subst h2
      obtain ⟨hdigits, hdigit, -⟩ := takeAsciiDigits_spec hds
      have hno : extendsDigits e = false := by
        rcases isExponentMark_iff.1 he with rfl | rfl <;> decide
      refine ⟨e :: (sign ++ digits), ?_, ?_, stopsAt_cons.2 hno, fun t ht => ?_⟩
      · rw [List.cons_append, List.append_assoc, ← hdigits, ← hsign]
      · intro r hr
        simp only [List.mem_cons, List.mem_append] at hr
        rcases hr with rfl | hr | hr
        · simp [isNumberRune, he]
        · exact hsignRunes r hr
        · simp [isNumberRune, hdigit r hr]
      · have hne' : digits ≠ [] := by
          rintro rfl
          exact hne rfl
        have hsignStops : StopsAt isSign (digits ++ t) := by
          obtain ⟨d, more, rfl⟩ := List.exists_cons_of_ne_nil hne'
          have hd := hdigit d List.mem_cons_self
          simp only [Rune.isAsciiDigit, Rune.within, Bool.and_eq_true, decide_eq_true_eq] at hd
          refine stopsAt_cons.2 ?_
          simp only [isSign, Bool.or_eq_false_iff, beq_eq_false_iff_ne]
          omega
        have hread := takeAsciiDigits_append hdigit
          (ht.mono fun r hr => by simp [extendsNumber, extendsDigits, hr])
        rw [List.cons_append, takeExponent, if_pos (isExponentMark_iff.1 he), List.append_assoc,
          hsignLocal _ hsignStops, hread]
        obtain ⟨d, more, rfl⟩ := List.exists_cons_of_ne_nil hne'
        rw [← h1]

/-! ## The whole number -/

/-- A number is a stretch of the text that starts with a digit, and it is read as the same number
whatever follows that does not go on with it. -/
theorem readNumber?_spec {negative : Bool} {s rest : Text} {v : Value}
    (h : readNumber? negative s = some (.ok v, rest)) :
    ∃ p, s = p ++ rest ∧ (∀ r ∈ p, isNumberRune r = true) ∧ (∃ r ∈ p.head?, r.isAsciiDigit = true) ∧
      ∀ t, StopsAt extendsNumber t → readNumber? negative (p ++ t) = some (.ok v, t) := by
  unfold readNumber? at h
  split at h
  · simp at h
  · next whole rest' hne hw =>
    have hwne : whole ≠ [] := by
      rintro rfl
      exact hne rfl
    obtain ⟨hs, hdigits, hwhole⟩ := takeWhole_spec hw hwne
    obtain ⟨fraction, rest₁, hf⟩ : ∃ x t, takeFraction rest' = (x, t) := ⟨_, _, rfl⟩
    obtain ⟨exponent, rest₂, he⟩ : ∃ x t, takeExponent rest₁ = (x, t) := ⟨_, _, rfl⟩
    obtain ⟨fractionText, hfs, hfr, hfstops, hflocal⟩ := takeFraction_spec hf
    obtain ⟨exponentText, hes, her, hestops, helocal⟩ := takeExponent_spec he
    obtain ⟨d, more, rfl⟩ := List.exists_cons_of_ne_nil hwne
    simp only [hf, he] at h
    have hrest : rest = rest₂ := by
      split at h
      · split at h <;> simp at h
        exact h.2.symm
      · simp at h
        exact h.2.symm
    subst hrest
    refine ⟨d :: more ++ (fractionText ++ exponentText), ?_, ?_, ⟨d, rfl, hdigits d (by simp)⟩,
      fun t ht => ?_⟩
    · rw [hs, hfs, hes, List.append_assoc, List.append_assoc]
    · intro r hr
      simp only [List.mem_append] at hr
      rcases hr with hr | hr | hr
      · simp [isNumberRune, hdigits r hr]
      · exact hfr r hr
      · exact her r hr
    · -- each part stops where the next one begins, or at `t` where no part follows
      have hdigitStops : StopsAt Rune.isAsciiDigit (fractionText ++ (exponentText ++ t)) :=
        stopsAt_append hfstops (stopsAt_append
          (hestops.mono fun r hr => by simp [extendsDigits, hr])
          (ht.mono fun r hr => by simp [extendsNumber, extendsDigits, hr]))
      have hpointStops : StopsAt extendsDigits (exponentText ++ t) :=
        stopsAt_append hestops (ht.mono fun r hr => by simp [extendsNumber, hr])
      rw [readNumber?, List.append_assoc, List.append_assoc, hwhole _ hdigitStops]
      simp only [hflocal _ hpointStops, helocal _ ht]
      split at h
      · next hcond =>
        rw [if_pos hcond]
        split at h
        · simp at h
        · next hlong =>
          rw [if_neg hlong]
          simpa using h
      · next hcond =>
        rw [if_neg hcond]
        simpa using h

end Nomenclator.Json

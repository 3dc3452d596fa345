import Mathlib.Data.List.Infix
import Nomenclator.Proofs.Json.Nesting
import Nomenclator.Proofs.Suggestion.Scan

/-!
# What the search for the answer finds

The search is the leftmost object that the decoder accepts or, failing that, the leftmost balanced
text. A brace before the object cannot hide it, whatever the prose between them holds.
-/

namespace Nomenclator.Suggestion

open Json

/-! ## The two readers of an object -/

/-- The object at the very start of `s`, as far as the decoder takes it. -/
def objectAt? (s : Text) : Option Text :=
  match s with
  | ⟨0x7B⟩ :: _ =>
    match readValue nestingLimit s with
    | .ok taken => some (s.take (s.length - taken.rest.length))
    | .error _ => none
  | _ => none

/-- The text from the brace at the very start of `s` to the one that balances it. -/
def balancedAt? (s : Text) : Option Text :=
  match s with
  | ⟨0x7B⟩ :: _ => balanced? s
  | _ => none

/-- No balanced text is nested too deep for the decoder. -/
def WithinNesting (s : Text) : Prop :=
  ∀ u, u <:+ s → ∀ candidate, balancedAt? u = some candidate → decode candidate ≠ .error .tooDeep

theorem objectAt?_brace (s : Text) :
    objectAt? (⟨0x7B⟩ :: s) =
      match valueAt nestingLimit (⟨0x7B⟩ :: s) with
      | .ok (_, rest) =>
        some ((⟨0x7B⟩ :: s : Text).take ((⟨0x7B⟩ :: s : Text).length - rest.length))
      | .error _ => none := by
  unfold objectAt? valueAt
  cases readValue nestingLimit (⟨0x7B⟩ :: s) <;> rfl

theorem valueAt_brace_spec {depth : Nat} {s rest : Text} {v : Value}
    (h : valueAt depth (⟨0x7B⟩ :: s) = .ok (v, rest)) :
    ∃ inner, s = inner ++ ⟨0x7D⟩ :: rest ∧ Passes inner ∧
      ∀ t, valueAt depth (⟨0x7B⟩ :: (inner ++ ⟨0x7D⟩ :: t)) = .ok (v, t) := by
  obtain ⟨p, hp, hspells⟩ := valueAt_sound h
  cases hspells with
  | plain hplain =>
    obtain ⟨r, more, rfl⟩ := List.exists_cons_of_ne_nil hplain.nonempty
    injection hp with hr
    have hmark := hplain.unmarked r List.mem_cons_self
    rw [← hr] at hmark
    exact absurd hmark (by decide)
  | quoted hquoted =>
    obtain ⟨q, rfl, -⟩ := hquoted
    injection hp with hr
    exact absurd hr (by decide)
  | emptyList | list =>
    injection hp with hr
    exact absurd hr (by decide)
  | @emptyTable depth b hb =>
    injection hp with _ hs
    refine ⟨b, by rw [hs]; simp, passes_blanks hb, fun t => ?_⟩
    rw [valueAt_brace, skipBlanks_mark hb rfl]
    rfl
  | @table depth b p pairs hb hmembers =>
    injection hp with _ hs
    refine ⟨b ++ p, by rw [hs]; simp, (passes_blanks hb).append (passes_spells hmembers),
      fun t => ?_⟩
    rw [List.append_assoc]
    exact valueAt_table hb hmembers hmembers.readFrom t

theorem objectAt?_eq_some {s t : Text} :
    objectAt? s = some t ↔
      ∃ inner rest v, t = ⟨0x7B⟩ :: (inner ++ [⟨0x7D⟩]) ∧ s = t ++ rest ∧ Passes inner ∧
        ∀ u, valueAt nestingLimit (t ++ u) = .ok (v, u) := by
  constructor
  · intro h
    obtain ⟨s, rfl⟩ : ∃ s', s = ⟨0x7B⟩ :: s' := by
      unfold objectAt? at h
      split at h
      · exact ⟨_, rfl⟩
      · simp at h
    rw [objectAt?_brace] at h
    split at h
    · next v rest hvalue =>
      obtain ⟨inner, rfl, hinner, hread⟩ := valueAt_brace_spec hvalue
      injection h with h
      have htext : ∀ u, ⟨0x7B⟩ :: (inner ++ ⟨0x7D⟩ :: u) =
          (⟨0x7B⟩ :: (inner ++ [⟨0x7D⟩]) ++ u : Text) := by simp
      rw [htext, List.length_append, Nat.add_sub_cancel, List.take_left] at h
      subst h
      refine ⟨inner, rest, v, rfl, htext rest, hinner, fun u => ?_⟩
      rw [← htext]
      exact hread u
    · simp at h
  · rintro ⟨inner, rest, v, rfl, rfl, -, hread⟩
    have h := hread rest
    rw [List.cons_append] at h ⊢
    rw [objectAt?_brace, h]
    simp only [Option.some.injEq]
    rw [← List.cons_append, List.length_append, Nat.add_sub_cancel, List.take_left]

/-- The decoder and the scan agree on where an object ends. -/
theorem balancedAt?_of_objectAt? {s t : Text} (h : objectAt? s = some t) :
    balancedAt? s = some t := by
  obtain ⟨inner, rest, v, rfl, rfl, hinner, -⟩ := objectAt?_eq_some.1 h
  simpa [balancedAt?] using balanced?_braces hinner rest

theorem decode_of_objectAt? {s t : Text} (h : objectAt? s = some t) : ∃ v, decode t = .ok v := by
  obtain ⟨inner, rest, v, rfl, rfl, hinner, hread⟩ := objectAt?_eq_some.1 h
  have hstart : skipBlanks (⟨0x7B⟩ :: (inner ++ [⟨0x7D⟩])) = ⟨0x7B⟩ :: (inner ++ [⟨0x7D⟩]) := rfl
  have hvalue := hread []
  rw [List.append_nil] at hvalue
  refine ⟨v, ?_⟩
  rw [decode_eq (by simp), hstart, hvalue]
  rfl

theorem objectAt?_of_decode {s : Text} {v : Value} (h : decode (⟨0x7B⟩ :: s) = .ok v)
    (after : Text) :
    ∃ p rest, ⟨0x7B⟩ :: s = p ++ rest ∧ Blanks rest ∧
      objectAt? (⟨0x7B⟩ :: s ++ after) = some p := by
  have hstart : skipBlanks (⟨0x7B⟩ :: s) = ⟨0x7B⟩ :: s := rfl
  rw [decode_eq (by simp), hstart] at h
  split at h
  · simp at h
  · next v' rest hvalue =>
    obtain ⟨inner, rfl, hinner, hread⟩ := valueAt_brace_spec hvalue
    obtain ⟨b, hrest, hb, -⟩ := skipBlanks_spec rest
    split at h
    · next hend =>
      rw [hend, List.append_nil] at hrest
      refine ⟨⟨0x7B⟩ :: (inner ++ [⟨0x7D⟩]), rest, by simp, hrest ▸ hb,
        objectAt?_eq_some.2 ⟨inner, rest ++ after, v', rfl, by simp, hinner, fun u => ?_⟩⟩
      simpa using hread u
    · simp at h

theorem balancedAt?_prefix {s t : Text} (h : balancedAt? s = some t) :
    ∃ t' after, t = ⟨0x7B⟩ :: t' ∧ s = t ++ after := by
  unfold balancedAt? at h
  split at h
  · next s =>
    rw [balanced?, scan_open, Option.map_map, Option.map_eq_some_iff] at h
    obtain ⟨n, -, rfl⟩ := h
    exact ⟨s.take n, s.drop n, rfl, by simp⟩
  · simp at h

theorem objectAt?_eq_some_iff {s t : Text} :
    objectAt? s = some t ↔ balancedAt? s = some t ∧ ∃ v, decode t = .ok v := by
  constructor
  · intro h
    exact ⟨balancedAt?_of_objectAt? h, decode_of_objectAt? h⟩
  · rintro ⟨hbalanced, v, hdecode⟩
    obtain ⟨t', after, rfl, rfl⟩ := balancedAt?_prefix hbalanced
    obtain ⟨p, rest, -, -, hobject⟩ := objectAt?_of_decode hdecode after
    have hsame := balancedAt?_of_objectAt? hobject
    rw [hbalanced] at hsame
    rw [hobject, ← hsame]

/-! ## The search -/

theorem withinNesting_of_bracketCount_le {s : Text} (h : bracketCount s ≤ nestingLimit) :
    WithinNesting s := by
  intro u hu candidate hcandidate
  obtain ⟨t, after, rfl, rfl⟩ := balancedAt?_prefix hcandidate
  refine decode_ne_tooDeep ?_
  have hfewer := bracketCount_le_of_suffix hu
  rw [bracketCount_append] at hfewer
  omega

theorem extractFrom_cons (first : Option Text) (r : Rune) (rest : Text) :
    extractFrom first (r :: rest) =
      match balancedAt? (r :: rest) with
      | none => extractFrom first rest
      | some candidate =>
        match decode candidate with
        | .ok _ => .ok (some candidate)
        | .error .tooDeep => .error .tooDeep
        | .error _ => extractFrom (first <|> some candidate) rest := by
  rw [extractFrom]
  split
  · next hbrace =>
    obtain rfl : r = ⟨0x7B⟩ := congrArg Rune.mk hbrace
    rfl
  · next hbrace =>
    have hr : r ≠ ⟨0x7B⟩ := fun hr => hbrace (congrArg Rune.code hr)
    have hbalanced : balancedAt? (r :: rest) = none := by simp [balancedAt?, hr]
    rw [hbalanced]

theorem objectAt?_eq_none {s candidate : Text} {stop : Stop}
    (hcandidate : balancedAt? s = some candidate) (hdecode : decode candidate = .error stop) :
    objectAt? s = none := by
  refine Option.eq_none_iff_forall_ne_some.2 fun t ht => ?_
  rw [objectAt?_eq_some_iff, hcandidate] at ht
  obtain ⟨heq, v, hok⟩ := ht
  injection heq with heq
  rw [← heq, hdecode] at hok
  exact absurd hok (by simp)

theorem objectAt?_eq_none_of_balancedAt? {s : Text} (h : balancedAt? s = none) :
    objectAt? s = none := by
  refine Option.eq_none_iff_forall_ne_some.2 fun t ht => ?_
  rw [balancedAt?_of_objectAt? ht] at h
  exact absurd h (by simp)

/-! ## Nesting that is too deep -/

/-- A balanced text of `s` is nested too deep for the decoder, and no object stands at a brace
before it. -/
def NestsTooDeep (s : Text) : Prop :=
  ∃ u candidate, u <:+ s ∧ balancedAt? u = some candidate ∧ decode candidate = .error .tooDeep ∧
    ∀ w, w <:+ s → u.length < w.length → objectAt? w = none

theorem nestsTooDeep_cons {r : Rune} {s : Text} (hobject : objectAt? (r :: s) = none)
    (hcandidate : ∀ candidate, balancedAt? (r :: s) = some candidate →
      decode candidate ≠ .error .tooDeep) :
    NestsTooDeep (r :: s) ↔ NestsTooDeep s := by
  constructor
  · rintro ⟨u, candidate, hu, hbalanced, hdeep, hfirst⟩
    rcases List.suffix_cons_iff.1 hu with rfl | hu
    · exact absurd hdeep (hcandidate candidate hbalanced)
    · exact ⟨u, candidate, hu, hbalanced, hdeep,
        fun w hw => hfirst w (hw.trans (List.suffix_cons r s))⟩
  · rintro ⟨u, candidate, hu, hbalanced, hdeep, hfirst⟩
    refine ⟨u, candidate, hu.trans (List.suffix_cons r s), hbalanced, hdeep, fun w hw hlt => ?_⟩
    rcases List.suffix_cons_iff.1 hw with rfl | hw
    · exact hobject
    · exact hfirst w hw hlt

theorem nestsTooDeep_cons_of_decode {r : Rune} {s candidate : Text} {stop : Stop}
    (hcandidate : balancedAt? (r :: s) = some candidate) (hdecode : decode candidate = .error stop)
    (hdeep : stop ≠ .tooDeep) : NestsTooDeep (r :: s) ↔ NestsTooDeep s := by
  refine nestsTooDeep_cons (objectAt?_eq_none hcandidate hdecode) fun candidate' hsame => ?_
  rw [hcandidate] at hsame
  injection hsame with hsame
  rw [← hsame, hdecode]
  intro h
  injection h with h
  exact hdeep h

theorem nestsTooDeep_of_start {s candidate : Text} (hcandidate : balancedAt? s = some candidate)
    (hdecode : decode candidate = .error .tooDeep) : NestsTooDeep s := by
  refine ⟨s, candidate, List.suffix_rfl, hcandidate, hdecode, fun w hw hlt => ?_⟩
  exact absurd hw.length_le (by omega)

/-- Unless it stops for the nesting, the search is for the leftmost object and, failing that, for
the leftmost balanced text. -/
theorem extractFrom_eq_of_not_nestsTooDeep {s : Text} (h : ¬NestsTooDeep s) (first : Option Text) :
    extractFrom first s =
      .ok (s.tails.findSome? objectAt? <|> (first <|> s.tails.findSome? balancedAt?)) := by
  induction s generalizing first with
  | nil => cases first <;> rfl
  | cons r rest ih =>
    rw [extractFrom_cons, List.tails_cons, List.findSome?_cons, List.findSome?_cons]
    cases hcandidate : balancedAt? (r :: rest) with
    | none =>
      have hobject := objectAt?_eq_none_of_balancedAt? hcandidate
      rw [nestsTooDeep_cons hobject (by simp [hcandidate])] at h
      simp only [hobject, ih h]
    | some candidate =>
      simp only
      split
      · next v hdecode =>
        rw [objectAt?_eq_some_iff.2 ⟨hcandidate, v, hdecode⟩]
        rfl
      · next hdecode => exact absurd (nestsTooDeep_of_start hcandidate hdecode) h
      · next stop hdeep hdecode =>
        rw [nestsTooDeep_cons_of_decode hcandidate hdecode hdeep] at h
        simp only [objectAt?_eq_none hcandidate hdecode, ih h]
        cases first <;> rfl

theorem WithinNesting.not_nestsTooDeep {s : Text} (h : WithinNesting s) : ¬NestsTooDeep s := by
  rintro ⟨u, candidate, hu, hbalanced, hdeep, -⟩
  exact h u hu candidate hbalanced hdeep

theorem extractFrom_eq {s : Text} (h : WithinNesting s) (first : Option Text) :
    extractFrom first s =
      .ok (s.tails.findSome? objectAt? <|> (first <|> s.tails.findSome? balancedAt?)) :=
  extractFrom_eq_of_not_nestsTooDeep h.not_nestsTooDeep first

theorem extractFrom_eq_tooDeep_iff {s : Text} (first : Option Text) :
    extractFrom first s = .error .tooDeep ↔ NestsTooDeep s := by
  induction s generalizing first with
  | nil =>
    constructor
    · intro h
      simp [extractFrom] at h
    · rintro ⟨u, candidate, hu, hbalanced, -⟩
      rw [List.suffix_nil.1 hu] at hbalanced
      simp [balancedAt?] at hbalanced
  | cons r rest ih =>
    rw [extractFrom_cons]
    cases hcandidate : balancedAt? (r :: rest) with
    | none =>
      rw [nestsTooDeep_cons (objectAt?_eq_none_of_balancedAt? hcandidate) (by simp [hcandidate])]
      exact ih first
    | some candidate =>
      simp only
      split
      · next v hdecode =>
        -- an object was found, so nothing further on is tried
        refine iff_of_false (by simp) ?_
        have hobject := objectAt?_eq_some_iff.2 ⟨hcandidate, v, hdecode⟩
        rintro ⟨u, candidate', hu, hbalanced, hdeep, hfirst⟩
        rcases List.suffix_cons_iff.1 hu with rfl | hu
        · rw [hcandidate] at hbalanced
          injection hbalanced with hbalanced
          rw [← hbalanced, hdecode] at hdeep
          exact absurd hdeep (by simp)
        · rw [hfirst _ List.suffix_rfl (Nat.lt_succ_of_le hu.length_le)] at hobject
          exact absurd hobject (by simp)
      · next hdecode => exact iff_of_true rfl (nestsTooDeep_of_start hcandidate hdecode)
      · next stop hdeep hdecode =>
        rw [nestsTooDeep_cons_of_decode hcandidate hdecode hdeep]
        exact ih _

/-- The search stops for nothing but nesting, and what it finds is not nested too deep. -/
theorem extractFrom_cases (s : Text) (first : Option Text) :
    extractFrom first s = .error .tooDeep ∨ extractFrom first s = .ok none ∨
      ∃ t, extractFrom first s = .ok (some t) ∧ (first = some t ∨ decode t ≠ .error .tooDeep) := by
  induction s generalizing first with
  | nil => cases first <;> simp [extractFrom]
  | cons r rest ih =>
    rw [extractFrom_cons]
    cases balancedAt? (r :: rest) with
    | none => exact ih first
    | some candidate =>
      simp only
      split
      · next v hdecode => exact .inr (.inr ⟨candidate, rfl, .inr (by simp [hdecode])⟩)
      · exact .inl rfl
      · next stop hdeep hdecode =>
        rcases ih (first <|> some candidate) with h | h | ⟨t, h, ht⟩
        · exact .inl h
        · exact .inr (.inl h)
        · refine .inr (.inr ⟨t, h, ?_⟩)
          rcases ht with ht | ht
          · cases first with
            | some t' => exact .inl ht
            | none =>
              injection ht with ht
              rw [← ht, hdecode]
              refine .inr fun h => ?_
              injection h with h
              exact hdeep h
          · exact .inr ht

/-! ## The answer -/

theorem extractFrom_append {before : Text} (h : ∀ r ∈ before, r.code ≠ 0x7B)
    (first : Option Text) (t : Text) : extractFrom first (before ++ t) = extractFrom first t := by
  induction before with
  | nil => rfl
  | cons r before ih =>
    rw [List.cons_append, extractFrom, if_neg (h r List.mem_cons_self)]
    exact ih fun r' hr => h r' (List.mem_cons_of_mem _ hr)

theorem objectAt?_braces {inner : Text} {v : Value}
    (h : decode (⟨0x7B⟩ :: (inner ++ [⟨0x7D⟩])) = .ok v) (after : Text) :
    objectAt? (⟨0x7B⟩ :: (inner ++ [⟨0x7D⟩]) ++ after) = some (⟨0x7B⟩ :: (inner ++ [⟨0x7D⟩])) := by
  obtain ⟨p, rest, hp, hrest, hobject⟩ := objectAt?_of_decode h after
  obtain rfl : rest = [] := by
    rcases List.eq_nil_or_concat rest with rfl | ⟨front, last, rfl⟩
    · rfl
    · have hlast : ⟨0x7D⟩ = last := by
        have hreverse := congrArg List.reverse hp
        simp only [List.reverse_cons, List.reverse_append, List.concat_eq_append] at hreverse
        simpa using congrArg List.head? hreverse
      have hblank := hrest last (by simp)
      rw [← hlast] at hblank
      exact absurd hblank (by decide)
  rw [List.append_nil] at hp
  rw [hobject, hp]

/-- Within the nesting limit the answer is the object at the leftmost brace where the decoder takes
one, or else the balanced text at the leftmost brace that is balanced. Braces that decode are found
whatever stands after them, if no brace stands before them. -/
theorem extract_eq_leftmost :
    (∀ s, WithinNesting s →
      extract s = .ok (s.tails.findSome? objectAt? <|> s.tails.findSome? balancedAt?)) ∧
    ∀ before inner after v, (∀ r ∈ before, r ≠ (⟨0x7B⟩ : Rune)) →
      decode (⟨0x7B⟩ :: (inner ++ [⟨0x7D⟩])) = .ok v →
      extract (before ++ ⟨0x7B⟩ :: (inner ++ [⟨0x7D⟩]) ++ after) =
        .ok (some (⟨0x7B⟩ :: (inner ++ [⟨0x7D⟩]))) := by
  constructor
  · intro s h
    rw [extract, extractFrom_eq h]
    rfl
  · intro before inner after v hbefore hdecode
    have hcode : ∀ r ∈ before, r.code ≠ 0x7B := fun r hr h => hbefore r hr (congrArg Rune.mk h)
    have hbalanced := balancedAt?_of_objectAt? (objectAt?_braces hdecode after)
    rw [extract, List.append_assoc, extractFrom_append hcode, List.cons_append, extractFrom,
      if_pos rfl]
    rw [List.cons_append] at hbalanced
    have hsame : balanced? (⟨0x7B⟩ :: (inner ++ [⟨0x7D⟩] ++ after)) =
        some (⟨0x7B⟩ :: (inner ++ [⟨0x7D⟩])) := hbalanced
    simp only [hsame, hdecode]

/-- The brace in the name is part of a string and closes nothing. -/
theorem extract_eq_leftmost_prose :
    let inner : Text := "\"name\":\"\x7d\""
    let before : Text := "Sure: "
    let after : Text := " \x7bsic\x7d"
    (WithinNesting after ∧
      extract after = .ok (after.tails.findSome? objectAt? <|> after.tails.findSome? balancedAt?)) ∧
    (∀ r ∈ before, r ≠ (⟨0x7B⟩ : Rune)) ∧
    (∃ v, decode (⟨0x7B⟩ :: (inner ++ [⟨0x7D⟩])) = .ok v) ∧
    extract (before ++ ⟨0x7B⟩ :: (inner ++ [⟨0x7D⟩]) ++ after) =
      .ok (some (⟨0x7B⟩ :: (inner ++ [⟨0x7D⟩]))) := by
  intro inner before after
  have hwithin : WithinNesting after := withinNesting_of_bracketCount_le (by decide)
  have hbefore : ∀ r ∈ before, r ≠ (⟨0x7B⟩ : Rune) := by decide
  have hname : IsName "\"name\":" "name" :=
    ⟨"\"name\"", [], rfl, ⟨"name", rfl, fun _ _ => rfl⟩, blanks_nil⟩
  have hvalue : Spells (nestingLimit - 1) (.value (.text "\x7d")) "\"\x7d\"" :=
    .quoted ⟨"\x7d", rfl, fun _ _ => rfl⟩
  have hmembers : Spells (nestingLimit - 1) (.members [("name", .text "\x7d")]) inner :=
    .lastMember hname blanks_nil hvalue blanks_nil
  have hdecode := decode_members hmembers
  exact ⟨⟨hwithin, extract_eq_leftmost.1 after hwithin⟩, hbefore, ⟨_, hdecode⟩,
    extract_eq_leftmost.2 before inner after _ hbefore hdecode⟩

end Nomenclator.Suggestion

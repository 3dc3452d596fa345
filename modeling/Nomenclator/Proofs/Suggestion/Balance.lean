import Mathlib.Data.List.Infix
import Nomenclator.Proofs.Suggestion.Extraction

/-!
# Balanced texts

A text is balanced that starts with a brace and ends with the one that closes it. The scan from a
brace finds the balanced text there, if there is one, so the search can be described by the balanced
parts of the text and what they decode to.
-/

namespace Nomenclator.Suggestion

open Json

/-! ## Depth -/

/-- How many braces are open after one more character, and whether it belongs to a string. -/
def braceStep : ScanState × Nat → Rune → ScanState × Nat
  | (.escaped, depth), _ => (.quoted, depth)
  | (.quoted, depth), r =>
    if r.code = 0x5C then (.escaped, depth)
    else if r.code = 0x22 then (.code, depth)
    else (.quoted, depth)
  | (.code, depth), r =>
    if r.code = 0x22 then (.quoted, depth)
    else if r.code = 0x7B then (.code, depth + 1)
    else if r.code = 0x7D then (.code, depth - 1)
    else (.code, depth)

/-- The number of braces that are open after `t`. -/
def braceDepth (t : Text) : Nat := (t.foldl braceStep (.code, 0)).2

/-- From a brace to the one that closes it. Braces in strings do not count. -/
structure IsBalanced (t : Text) : Prop where
  opens : t.head? = some ⟨0x7B⟩
  closes : braceDepth t = 0
  within : ∀ p, p <+: t → p ≠ [] → p ≠ t → 0 < braceDepth p

/-- Read from the state `start`, the text closes the last open brace with its last character. -/
def Closes (start : ScanState × Nat) (t : Text) : Prop :=
  (t.foldl braceStep start).2 = 0 ∧ ∀ p, p <+: t → p ≠ t → 0 < (p.foldl braceStep start).2

variable {start : ScanState × Nat} {r : Rune} {s t : Text}

theorem closes_nil : Closes start [] ↔ start.2 = 0 := by
  refine ⟨fun h => h.1, fun h => ⟨h, fun p hp hne => ?_⟩⟩
  exact absurd (List.prefix_nil.1 hp) hne

theorem closes_cons : Closes start (r :: t) ↔ 0 < start.2 ∧ Closes (braceStep start r) t := by
  constructor
  · intro h
    refine ⟨h.2 [] (List.nil_prefix) (by simp), h.1, fun p hp hne => ?_⟩
    exact h.2 (r :: p) (List.cons_prefix_cons.2 ⟨rfl, hp⟩) (by simpa using hne)
  · rintro ⟨hopen, hclosed, hwithin⟩
    refine ⟨hclosed, fun p hp hne => ?_⟩
    rcases List.prefix_cons_iff.1 hp with rfl | ⟨q, rfl, hq⟩
    · exact hopen
    · exact hwithin q hq (by simpa using hne)

theorem isBalanced_iff_closes : IsBalanced (⟨0x7B⟩ :: t) ↔ Closes (.code, 1) t := by
  constructor
  · intro h
    refine ⟨h.closes, fun p hp hne => ?_⟩
    exact h.within (⟨0x7B⟩ :: p) (List.cons_prefix_cons.2 ⟨rfl, hp⟩) (by simp) (by simpa using hne)
  · intro h
    refine ⟨rfl, h.1, fun p hp hne hne' => ?_⟩
    rcases List.prefix_cons_iff.1 hp with rfl | ⟨q, rfl, hq⟩
    · exact absurd rfl hne
    · exact h.2 q hq (by simpa using hne')

/-! ## The scan -/

theorem balancedLength?_cons {state : ScanState} {depth : Nat} (h : 0 < depth) :
    balancedLength? state depth (r :: s) =
      if (braceStep (state, depth) r).2 = 0 then some 1
      else (balancedLength? (braceStep (state, depth) r).1 (braceStep (state, depth) r).2 s).map
        (· + 1) := by
  have hdepth : depth ≠ 0 := by omega
  cases state with
  | code =>
    simp only [balancedLength?, braceStep]
    split_ifs <;> simp_all
    omega
  | quoted =>
    simp only [balancedLength?, braceStep]
    split_ifs <;> simp_all
  | escaped => simp [balancedLength?, braceStep, hdepth]

theorem closes_iff_of_closed (h : start.2 = 0) : Closes start t ↔ t = [] := by
  cases t with
  | nil => simp [closes_nil, h]
  | cons r t => simp [closes_cons, h]

/-- The scan counts up to the character that closes the last open brace. -/
theorem balancedLength?_eq_some_iff {state : ScanState} {depth n : Nat} (h : 0 < depth) :
    balancedLength? state depth s = some n ↔ n ≤ s.length ∧ Closes (state, depth) (s.take n) := by
  have hdepth : depth ≠ 0 := by omega
  induction s generalizing state depth n with
  | nil => simp [balancedLength?, closes_nil, hdepth]
  | cons r s ih =>
    rw [balancedLength?_cons h]
    cases n with
    | zero =>
      rw [List.take_zero, closes_nil]
      refine iff_of_false ?_ fun hnil => hdepth hnil.2
      split <;> simp
    | succ n =>
      rw [List.take_succ_cons, closes_cons, List.length_cons, Nat.add_le_add_iff_right]
      -- the scan ends with `r`, and then so must the text, or a brace is still open
      split
      · next hclosed =>
        rw [closes_iff_of_closed hclosed, List.take_eq_nil_iff, Option.some.injEq]
        constructor
        · intro hn
          exact ⟨by omega, h, .inl (by omega)⟩
        · rintro ⟨hle, -, rfl | rfl⟩
          · rfl
          · rw [List.length_nil] at hle
            omega
      · next hopen =>
        rw [Option.map_eq_some_iff]
        simp only [Nat.add_right_cancel_iff, exists_eq_right, true_and, h,
          ih (Nat.pos_of_ne_zero hopen) hopen]

theorem balancedAt?_brace_eq_some_iff :
    balancedAt? (⟨0x7B⟩ :: s) = some (⟨0x7B⟩ :: t) ↔ t <+: s ∧ Closes (.code, 1) t := by
  rw [balancedAt?, balanced?, scan_open, Option.map_map, Option.map_eq_some_iff]
  simp only [balancedLength?_eq_some_iff Nat.one_pos, Function.comp, List.take_succ_cons,
    List.cons.injEq, true_and]
  constructor
  · rintro ⟨n, ⟨-, hcloses⟩, rfl⟩
    exact ⟨List.take_prefix n s, hcloses⟩
  · rintro ⟨ht, hcloses⟩
    have htake : s.take t.length = t := (List.prefix_iff_eq_take.1 ht).symm
    exact ⟨t.length, ⟨ht.length_le, htake.symm ▸ hcloses⟩, htake⟩

theorem balancedAt?_eq_some_iff : balancedAt? s = some t ↔ t <+: s ∧ IsBalanced t := by
  constructor
  · intro h
    obtain ⟨t', after, rfl, rfl⟩ := balancedAt?_prefix h
    obtain ⟨-, hcloses⟩ := balancedAt?_brace_eq_some_iff.1 h
    exact ⟨List.prefix_append _ _, isBalanced_iff_closes.2 hcloses⟩
  · rintro ⟨⟨after, rfl⟩, hbalanced⟩
    obtain ⟨t', rfl⟩ : ∃ t', t = ⟨0x7B⟩ :: t' := by
      obtain ⟨t', rfl⟩ := List.head?_eq_some_iff.1 hbalanced.opens
      exact ⟨t', rfl⟩
    exact balancedAt?_brace_eq_some_iff.2
      ⟨List.prefix_append _ _, isBalanced_iff_closes.1 hbalanced⟩

theorem balancedAt?_eq_none_iff : balancedAt? s = none ↔ ∀ t, t <+: s → ¬IsBalanced t := by
  rw [Option.eq_none_iff_forall_ne_some]
  exact forall_congr' fun t => by rw [ne_eq, balancedAt?_eq_some_iff, not_and]

/-! ## The search -/

/-- A balanced text that decodes. -/
def IsObject (t : Text) : Prop := IsBalanced t ∧ ∃ value, decode t = .ok value

/-- `entries` is what the leftmost object of `s` holds. -/
def Extracts (s : Text) (entries : Entries Value) : Prop :=
  ∃ u t, u <:+ s ∧ t <+: u ∧ IsBalanced t ∧ decode t = .ok (.table entries) ∧
    ∀ w, w <:+ s → u.length < w.length → ∀ t', t' <+: w → ¬IsObject t'

theorem objectAt?_eq_some_iff_isObject : objectAt? s = some t ↔ t <+: s ∧ IsObject t := by
  rw [objectAt?_eq_some_iff, balancedAt?_eq_some_iff, and_assoc]
  rfl

theorem objectAt?_eq_none_iff : objectAt? s = none ↔ ∀ t, t <+: s → ¬IsObject t := by
  rw [Option.eq_none_iff_forall_ne_some]
  exact forall_congr' fun t => by rw [ne_eq, objectAt?_eq_some_iff_isObject, not_and]

theorem findSome?_tails_eq_some_iff {f : Text → Option Text} :
    s.tails.findSome? f = some t ↔
      ∃ u, u <:+ s ∧ f u = some t ∧ ∀ w, w <:+ s → u.length < w.length → f w = none := by
  induction s with
  | nil => simp [List.suffix_nil]
  | cons r s ih =>
    rw [List.tails_cons, List.findSome?_cons]
    cases hstart : f (r :: s) with
    | some t' =>
      constructor
      · intro h
        refine ⟨r :: s, List.suffix_rfl, hstart.trans h, fun w hw hlt => ?_⟩
        exact absurd hw.length_le (by omega)
      · rintro ⟨u, hu, hfound, hfirst⟩
        rcases List.suffix_cons_iff.1 hu with rfl | hu
        · exact hstart.symm.trans hfound
        · rw [hfirst _ List.suffix_rfl (Nat.lt_succ_of_le hu.length_le)] at hstart
          exact absurd hstart (by simp)
    | none =>
      simp only [ih]
      constructor
      · rintro ⟨u, hu, hfound, hfirst⟩
        refine ⟨u, hu.trans (List.suffix_cons r s), hfound, fun w hw hlt => ?_⟩
        rcases List.suffix_cons_iff.1 hw with rfl | hw
        · exact hstart
        · exact hfirst w hw hlt
      · rintro ⟨u, hu, hfound, hfirst⟩
        rcases List.suffix_cons_iff.1 hu with rfl | hu
        · rw [hstart] at hfound
          exact absurd hfound (by simp)
        · exact ⟨u, hu, hfound, fun w hw => hfirst w (hw.trans (List.suffix_cons r s))⟩

theorem findSome?_tails_eq_none_iff {f : Text → Option Text} {p : Text → Prop}
    (hf : ∀ u, f u = none ↔ ∀ t, t <+: u → ¬p t) :
    s.tails.findSome? f = none ↔ ∀ t, t <:+: s → ¬p t := by
  simp only [List.findSome?_eq_none_iff, List.mem_tails, hf, List.infix_iff_prefix_suffix]
  exact ⟨fun h t ⟨u, ht, hu⟩ => h u hu t ht, fun h u hu t ht => h t ⟨u, ht, hu⟩⟩

theorem extract_eq_of_not_nestsTooDeep (h : ¬NestsTooDeep s) :
    extract s = .ok (s.tails.findSome? objectAt? <|> s.tails.findSome? balancedAt?) := by
  rw [extract, extractFrom_eq_of_not_nestsTooDeep h]
  rfl

theorem IsBalanced.exists_table {v : Value} (h : IsBalanced t) (hdecode : decode t = .ok v) :
    ∃ entries, v = .table entries := by
  obtain ⟨t', rfl⟩ := List.head?_eq_some_iff.1 h.opens
  exact exists_table_of_decode hdecode

theorem Extracts.findSome?_objectAt? {entries : Entries Value} (h : Extracts s entries) :
    ∃ t, s.tails.findSome? objectAt? = some t ∧ decode t = .ok (.table entries) := by
  obtain ⟨u, t, hu, ht, hbalanced, hdecode, hfirst⟩ := h
  refine ⟨t, findSome?_tails_eq_some_iff.2 ⟨u, hu, ?_, fun w hw hlt => ?_⟩, hdecode⟩
  · exact objectAt?_eq_some_iff_isObject.2 ⟨ht, hbalanced, _, hdecode⟩
  · exact objectAt?_eq_none_iff.2 (hfirst w hw hlt)

theorem Extracts.unique {entries entries' : Entries Value} (h : Extracts s entries)
    (h' : Extracts s entries') : entries = entries' := by
  obtain ⟨t, hobject, hdecode⟩ := h.findSome?_objectAt?
  obtain ⟨t', hobject', hdecode'⟩ := h'.findSome?_objectAt?
  rw [hobject] at hobject'
  injection hobject' with hsame
  rw [← hsame, hdecode] at hdecode'
  injection hdecode' with hdecode'
  injection hdecode'

theorem Extracts.exists_object {entries : Entries Value} (h : Extracts s entries) :
    ∃ t, t <:+: s ∧ IsObject t := by
  obtain ⟨u, t, hu, ht, hbalanced, hdecode, -⟩ := h
  exact ⟨t, List.infix_iff_prefix_suffix.2 ⟨u, ht, hu⟩, hbalanced, _, hdecode⟩

theorem not_extracts_of_noObject (h : ∀ t, t <:+: s → ¬IsObject t) (entries : Entries Value) :
    ¬Extracts s entries := by
  intro hentries
  obtain ⟨t, ht, hobject⟩ := hentries.exists_object
  exact h t ht hobject

/-- The search finds no balanced text, or one that does not decode as no other does, or the leftmost
object, which is a table. -/
theorem extract_cases (h : ¬NestsTooDeep s) :
    (extract s = .ok none ∧ ∀ t, t <:+: s → ¬IsBalanced t) ∨
      (∃ t stop, extract s = .ok (some t) ∧ decode t = .error stop ∧
        (t <:+: s ∧ IsBalanced t) ∧ ∀ t', t' <:+: s → ¬IsObject t') ∨
      ∃ t entries, extract s = .ok (some t) ∧ decode t = .ok (.table entries) ∧
        Extracts s entries := by
  rw [extract_eq_of_not_nestsTooDeep h]
  cases hobject : s.tails.findSome? objectAt? with
  | some t =>
    obtain ⟨u, hu, hfound, hfirst⟩ := findSome?_tails_eq_some_iff.1 hobject
    obtain ⟨ht, hbalanced, v, hdecode⟩ := objectAt?_eq_some_iff_isObject.1 hfound
    obtain ⟨entries, rfl⟩ := hbalanced.exists_table hdecode
    exact .inr (.inr ⟨t, entries, rfl, hdecode, u, t, hu, ht, hbalanced, hdecode,
      fun w hw hlt => objectAt?_eq_none_iff.1 (hfirst w hw hlt)⟩)
  | none =>
    -- whatever is balanced does not decode, or it would be an object
    have hnone := (findSome?_tails_eq_none_iff fun _ => objectAt?_eq_none_iff).1 hobject
    cases hbalanced : s.tails.findSome? balancedAt? with
    | none =>
      exact .inl ⟨rfl, (findSome?_tails_eq_none_iff fun _ => balancedAt?_eq_none_iff).1 hbalanced⟩
    | some t =>
      obtain ⟨u, hu, hfound, -⟩ := findSome?_tails_eq_some_iff.1 hbalanced
      obtain ⟨ht, hbalanced⟩ := balancedAt?_eq_some_iff.1 hfound
      have hpart : t <:+: s := List.infix_iff_prefix_suffix.2 ⟨u, ht, hu⟩
      cases hdecode : decode t with
      | ok v => exact absurd ⟨hbalanced, v, hdecode⟩ (hnone t hpart)
      | error stop => exact .inr (.inl ⟨t, stop, rfl, hdecode, ⟨hpart, hbalanced⟩, hnone⟩)

end Nomenclator.Suggestion

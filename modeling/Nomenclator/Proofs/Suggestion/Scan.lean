import Nomenclator.Proofs.Json.Grammar
import Nomenclator.Suggestion.Extraction

/-!
# The scan for the closing brace

The scan passes over whatever the grammar spells and comes out at the depth at which it went in.
So the scan and the decoder agree on where a table ends.
-/

namespace Nomenclator.Suggestion

open Json

/-! ## Single characters -/

theorem scan_quote (depth : Nat) (t : Text) :
    balancedLength? .code depth (⟨0x22⟩ :: t) =
      (balancedLength? .quoted depth t).map (· + 1) := by
  rw [balancedLength?]
  rfl

theorem scan_open (depth : Nat) (t : Text) :
    balancedLength? .code depth (⟨0x7B⟩ :: t) =
      (balancedLength? .code (depth + 1) t).map (· + 1) := by
  rw [balancedLength?]
  rfl

theorem scan_close (depth : Nat) (t : Text) :
    balancedLength? .code depth (⟨0x7D⟩ :: t) =
      if depth ≤ 1 then some 1 else (balancedLength? .code (depth - 1) t).map (· + 1) := by
  rw [balancedLength?]
  rfl

theorem scan_other {r : Rune} (hquote : r.code ≠ 0x22) (hopen : r.code ≠ 0x7B)
    (hclose : r.code ≠ 0x7D) (depth : Nat) (t : Text) :
    balancedLength? .code depth (r :: t) = (balancedLength? .code depth t).map (· + 1) := by
  rw [balancedLength?]
  simp only [if_neg hquote, if_neg hopen, if_neg hclose]

theorem scan_closingQuote (depth : Nat) (t : Text) :
    balancedLength? .quoted depth (⟨0x22⟩ :: t) =
      (balancedLength? .code depth t).map (· + 1) := by
  rw [balancedLength?]
  rfl

theorem scan_escape (depth : Nat) (e : Rune) (t : Text) :
    balancedLength? .quoted depth (⟨0x5C⟩ :: e :: t) =
      (balancedLength? .quoted depth t).map (· + 2) := by
  rw [balancedLength?]
  simp only [if_true]
  rw [balancedLength?, Option.map_map]
  rfl

theorem scan_quoted {r : Rune} (hslash : r.code ≠ 0x5C) (hquote : r.code ≠ 0x22) (depth : Nat)
    (t : Text) :
    balancedLength? .quoted depth (r :: t) = (balancedLength? .quoted depth t).map (· + 1) := by
  rw [balancedLength?]
  simp only [if_neg hslash, if_neg hquote]

theorem map_add_add (x : Option Nat) (m n : Nat) :
    (x.map (· + m)).map (· + n) = x.map (· + (m + n)) := by
  rw [Option.map_map]
  congr 1
  funext k
  simp only [Function.comp]
  omega

/-! ## Stretches of the text -/

/-- The scan passes over `p` at the depth at which it came, if a brace is open. -/
def Passes (p : Text) : Prop :=
  ∀ depth t, balancedLength? .code (depth + 1) (p ++ t) =
    (balancedLength? .code (depth + 1) t).map (· + p.length)

theorem passes_nil : Passes [] := by
  intro depth t
  simp

theorem Passes.append {p q : Text} (hp : Passes p) (hq : Passes q) : Passes (p ++ q) := by
  intro depth t
  rw [List.append_assoc, hp, hq, map_add_add, List.length_append, Nat.add_comm]

theorem passes_of_forall {p : Text}
    (h : ∀ r ∈ p, r.code ≠ 0x22 ∧ r.code ≠ 0x7B ∧ r.code ≠ 0x7D) : Passes p := by
  induction p with
  | nil => exact passes_nil
  | cons r p ih =>
    obtain ⟨hquote, hopen, hclose⟩ := h r List.mem_cons_self
    have hp := ih fun r' hr => h r' (List.mem_cons_of_mem _ hr)
    intro depth t
    rw [List.cons_append, scan_other hquote hopen hclose, hp, map_add_add, List.length_cons]

theorem passes_blanks {b : Text} (hb : Blanks b) : Passes b := by
  refine passes_of_forall fun r hr => ?_
  have h := hb r hr
  simp only [isBlank, Rune.within, Bool.or_eq_true, beq_iff_eq, Bool.and_eq_true,
    decide_eq_true_eq] at h
  omega

theorem passes_plain {p : Text} {v : Value} (h : IsPlain p v) : Passes p := by
  refine passes_of_forall fun r hr => ?_
  have hr := h.unmarked r hr
  simp only [isMark, isOpening, Bool.or_eq_false_iff, beq_eq_false_iff_ne] at hr
  exact ⟨hr.1.1.1.1.2.1.1, hr.1.1.1.1.2.2, hr.1.1.2⟩

theorem passes_braces {inner : Text} (h : Passes inner) :
    Passes (⟨0x7B⟩ :: (inner ++ [⟨0x7D⟩])) := by
  intro depth t
  have hdepth : ¬depth + 1 + 1 ≤ 1 := by omega
  have hlength : (⟨0x7B⟩ :: (inner ++ [⟨0x7D⟩]) : Text).length = 1 + (inner.length + 1) := by
    simp
    omega
  rw [List.cons_append, List.append_assoc, scan_open, h (depth + 1), List.singleton_append,
    scan_close, if_neg hdepth, Nat.add_sub_cancel, map_add_add, map_add_add, hlength]

/-- At the start of a text nothing is open, and the last brace of the table ends the scan. -/
theorem balanced?_braces {inner : Text} (h : Passes inner) (t : Text) :
    balanced? (⟨0x7B⟩ :: (inner ++ ⟨0x7D⟩ :: t)) = some (⟨0x7B⟩ :: (inner ++ [⟨0x7D⟩])) := by
  have hlast : balancedLength? .code 1 (⟨0x7D⟩ :: t) = some 1 := by
    rw [scan_close, if_pos (Nat.le_refl 1)]
  rw [balanced?, scan_open, h 0, hlast]
  simp only [Option.map_some, Option.some.injEq]
  have htext : ⟨0x7B⟩ :: (inner ++ ⟨0x7D⟩ :: t) = (⟨0x7B⟩ :: (inner ++ [⟨0x7D⟩])) ++ t := by simp
  have hlength : 1 + inner.length + 1 = (⟨0x7B⟩ :: (inner ++ [⟨0x7D⟩]) : Text).length := by
    simp
    omega
  rw [htext, hlength, List.take_left]

/-! ## Strings -/

/-- From inside a string with the remaining text `s` the scan comes out before `rest`. -/
def Leaves (s rest : Text) : Prop :=
  ∃ n, s.length = rest.length + n ∧ ∀ depth,
    balancedLength? .quoted depth s = (balancedLength? .code depth rest).map (· + n)

theorem Leaves.push {s rest : Text} (h : Leaves s rest) (front : Text)
    (step : ∀ depth, balancedLength? .quoted depth (front ++ s) =
      (balancedLength? .quoted depth s).map (· + front.length)) :
    Leaves (front ++ s) rest := by
  obtain ⟨n, hlength, hscan⟩ := h
  refine ⟨n + front.length, ?_, fun depth => ?_⟩
  · rw [List.length_append, hlength]
    omega
  · rw [step, hscan, map_add_add]

theorem hexValue?_quoted {r : Rune} {n : Nat} (h : r.hexValue? = some n) :
    r.code ≠ 0x5C ∧ r.code ≠ 0x22 := by
  unfold Rune.hexValue? at h
  simp only [Rune.isAsciiDigit, Rune.within, Bool.and_eq_true, decide_eq_true_eq] at h
  split_ifs at h <;> omega

theorem scan_unicode {a b c d : Rune} {n : Nat} (h : fourHex? a b c d = some n) (depth : Nat)
    (t : Text) :
    balancedLength? .quoted depth (⟨0x5C⟩ :: ⟨0x75⟩ :: a :: b :: c :: d :: t) =
      (balancedLength? .quoted depth t).map (· + 6) := by
  simp only [fourHex?, Option.bind_eq_bind, Option.bind_eq_some_iff] at h
  obtain ⟨_, ha, _, hb, _, hc, _, hd, -⟩ := h
  have ha := hexValue?_quoted ha
  have hb := hexValue?_quoted hb
  have hc := hexValue?_quoted hc
  have hd := hexValue?_quoted hd
  rw [scan_escape, scan_quoted ha.1 ha.2, scan_quoted hb.1 hb.2, scan_quoted hc.1 hc.2,
    scan_quoted hd.1 hd.2, map_add_add, map_add_add, map_add_add, map_add_add]

theorem leaves_of_readString {opening taken s content rest : Text} {waiting : Option Nat}
    (h : readString opening taken waiting s = .ok (content, rest)) : Leaves s rest := by
  fun_induction readString opening taken waiting s with
  | case2 taken waiting rest' =>
    injection h with h
    injection h with _ hrest
    subst hrest
    exact ⟨1, rfl, fun depth => scan_closingQuote depth _⟩
  | case5 taken a b c d next rest' n hn high hlow ih =>
    exact (ih h).push [⟨0x5C⟩, ⟨0x75⟩, a, b, c, d] fun depth => scan_unicode hn depth _
  | case6 taken a b c d next rest' n hn high hlow ih =>
    exact (ih h).push [⟨0x5C⟩, ⟨0x75⟩, a, b, c, d] fun depth => scan_unicode hn depth _
  | case7 taken a b c d next rest' n hn ih =>
    exact (ih h).push [⟨0x5C⟩, ⟨0x75⟩, a, b, c, d] fun depth => scan_unicode hn depth _
  | case9 taken waiting e rest' he r hr ih =>
    exact (ih h).push [⟨0x5C⟩, e] fun depth => scan_escape depth e _
  | case12 taken waiting r rest' hquote hlast _ hescape hcode ih =>
    have hslash : r ≠ ⟨0x5C⟩ := by
      rintro rfl
      cases rest' with
      | nil => exact hlast rfl rfl
      | cons e more => exact hescape e more rfl rfl
    refine (ih h).push [r] fun depth => scan_quoted (fun hc => hslash ?_) (fun hc => hquote ?_) _ _
    · exact congrArg Rune.mk hc
    · exact congrArg Rune.mk hc
  | _ => simp at h

theorem passes_quoted {p content : Text} (h : IsQuoted p content) : Passes p := by
  obtain ⟨q, rfl, hread⟩ := h
  intro depth t
  obtain ⟨n, hlength, hscan⟩ := leaves_of_readString (hread [] t)
  have hn : (⟨0x22⟩ :: (q ++ [⟨0x22⟩]) : Text).length = n + 1 := by
    simp only [List.length_append, List.length_cons, List.length_nil] at hlength ⊢
    omega
  rw [List.cons_append, List.append_assoc, List.singleton_append, scan_quote, hscan, map_add_add,
    hn]

theorem passes_name {p name : Text} (h : IsName p name) : Passes p := by
  obtain ⟨q, b, rfl, hq, hb⟩ := h
  exact (passes_quoted hq).append ((passes_blanks hb).append (passes_of_forall (by decide)))

/-! ## All that the grammar spells -/

theorem passes_spells {depth : Nat} {part : Part} {p : Text} (h : Spells depth part p) :
    Passes p := by
  have bracket : Passes [⟨0x5B⟩] := passes_of_forall (by decide)
  have closing : Passes [⟨0x5D⟩] := passes_of_forall (by decide)
  have comma : Passes [⟨0x2C⟩] := passes_of_forall (by decide)
  induction h with
  | plain h => exact passes_plain h
  | quoted h => exact passes_quoted h
  | emptyList hb => exact bracket.append ((passes_blanks hb).append closing)
  | list hb _ ih => exact bracket.append ((passes_blanks hb).append (ih.append closing))
  | emptyTable hb => exact passes_braces (passes_blanks hb)
  | @table _ b p _ hb _ ih =>
    have htext : ⟨0x7B⟩ :: (b ++ (p ++ [⟨0x7D⟩])) = ⟨0x7B⟩ :: (b ++ p ++ [⟨0x7D⟩]) := by simp
    rw [htext]
    exact passes_braces ((passes_blanks hb).append ih)
  | lastItem _ hb ih => exact ih.append (passes_blanks hb)
  | item _ hb hb' _ ihp ihq =>
    exact ihp.append ((passes_blanks hb).append (comma.append ((passes_blanks hb').append ihq)))
  | lastMember hn hb _ hb' ih =>
    exact (passes_name hn).append ((passes_blanks hb).append (ih.append (passes_blanks hb')))
  | member hn hb _ hb' hb'' _ ihp ihq =>
    exact (passes_name hn).append ((passes_blanks hb).append (ihp.append
      ((passes_blanks hb').append (comma.append ((passes_blanks hb'').append ihq)))))

end Nomenclator.Suggestion

import Mathlib.Algebra.Group.Nat.Defs
import Mathlib.Tactic.SplitIfs
import Nomenclator.Proofs.Text.Basic
import Nomenclator.Text.Utf8
import Nomenclator.Text.Word

/-!
# UTF-8 and back

A text that can be encoded is read back from its bytes as it was, if its line ends are line feeds.
-/

namespace Nomenclator

namespace Utf8

/-! ## Encoding -/

/-- The bytes of a text that can be encoded. -/
def bytesOf (t : Text) : Bytes := t.flatMap encodeRune

theorem bytesOf_append (s t : Text) : bytesOf (s ++ t) = bytesOf s ++ bytesOf t :=
  List.flatMap_append

theorem isEncodable_append (s t : Text) :
    isEncodable (s ++ t) = (isEncodable s && isEncodable t) := List.all_append

theorem encode_of_isEncodable {t : Text} (h : isEncodable t = true) :
    encode t = .ok (bytesOf t) := by
  rw [encode, if_pos h]
  rfl

theorem eq_bytesOf_of_encode {t : Text} {bytes : Bytes} (h : encode t = .ok bytes) :
    bytes = bytesOf t := by
  unfold encode at h
  split at h
  · injection h with h
    exact h.symm
  · simp at h

theorem bytesOf_ne_nil {t : Text} (h : t ≠ []) : bytesOf t ≠ [] := by
  obtain ⟨r, rest, rfl⟩ := List.exists_cons_of_ne_nil h
  rw [bytesOf, List.flatMap_cons, encodeRune]
  split_ifs <;> simp

/-! ## One character -/

/-- The last code point is U+10FFFF. -/
def IsCodePoint (r : Rune) : Prop := r.code < 0x110000

instance (r : Rune) : Decidable (IsCodePoint r) := inferInstanceAs (Decidable (r.code < 0x110000))

theorem toNat_ofNat {n : Nat} (h : n < 256) : (UInt8.ofNat n).toNat = n := by
  simp [Nat.mod_eq_of_lt h]

theorem continueSequence_done (value taken : Nat) (bounds : Nat × Nat) (bytes : Bytes) :
    continueSequence value taken 0 bounds bytes = .rune ⟨value⟩ taken := by
  cases bytes <;> rfl

theorem continueSequence_step {value taken missing n : Nat} {bounds : Nat × Nat} (hn : n < 64)
    (hlow : bounds.1 ≤ 0x80 + n) (hhigh : 0x80 + n ≤ bounds.2) (bytes : Bytes) :
    continueSequence value taken (missing + 1) bounds (UInt8.ofNat (0x80 + n) :: bytes) =
      continueSequence (value * 64 + n) (taken + 1) missing (0x80, 0xBF) bytes := by
  rw [continueSequence, toNat_ofNat (by omega), if_neg (by omega), if_pos ⟨hlow, hhigh⟩]
  simp

theorem piece_two {n : Nat} (hlow : 0x80 ≤ n) (hhigh : n < 0x800) (bytes : Bytes) :
    piece (UInt8.ofNat (0xC0 + n / 64)) (UInt8.ofNat (0x80 + n % 64) :: bytes) = .rune ⟨n⟩ 2 := by
  have hlength : sequenceLength (0xC0 + n / 64) = 2 := by
    unfold sequenceLength
    split_ifs <;> omega
  have hbounds : secondBounds (0xC0 + n / 64) = (0x80, 0xBF) := by
    unfold secondBounds
    split_ifs <;> first | rfl | omega
  have hvalue : (0xC0 + n / 64 - 0xC0) * 64 + n % 64 = n := by omega
  simp only [piece, toNat_ofNat (show 0xC0 + n / 64 < 256 by omega), hlength, hbounds]
  rw [continueSequence_step (by omega) (by simp) (by simp; omega), continueSequence_done, hvalue]

theorem secondBounds_three {n : Nat} (hlow : 0x800 ≤ n) (hhigh : n < 0x10000)
    (hsurrogate : n < 0xD800 ∨ 0xDFFF < n) :
    (secondBounds (0xE0 + n / 4096)).1 ≤ 0x80 + n / 64 % 64 ∧
      0x80 + n / 64 % 64 ≤ (secondBounds (0xE0 + n / 4096)).2 := by
  unfold secondBounds
  split_ifs <;> constructor <;> dsimp only <;> omega

theorem piece_three {n : Nat} (hlow : 0x800 ≤ n) (hhigh : n < 0x10000)
    (hsurrogate : n < 0xD800 ∨ 0xDFFF < n) (bytes : Bytes) :
    piece (UInt8.ofNat (0xE0 + n / 4096))
      (UInt8.ofNat (0x80 + n / 64 % 64) :: UInt8.ofNat (0x80 + n % 64) :: bytes) = .rune ⟨n⟩ 3 := by
  have hlength : sequenceLength (0xE0 + n / 4096) = 3 := by
    unfold sequenceLength
    split_ifs <;> omega
  obtain ⟨hfirst, hlast⟩ := secondBounds_three hlow hhigh hsurrogate
  have hvalue : ((0xE0 + n / 4096 - 0xE0) * 64 + n / 64 % 64) * 64 + n % 64 = n := by omega
  simp only [piece, toNat_ofNat (show 0xE0 + n / 4096 < 256 by omega), hlength]
  rw [continueSequence_step (by omega) hfirst hlast,
    continueSequence_step (by omega) (by simp) (by simp; omega), continueSequence_done, hvalue]

theorem secondBounds_four {n : Nat} (hlow : 0x10000 ≤ n) (hhigh : n < 0x110000) :
    (secondBounds (0xF0 + n / 262144)).1 ≤ 0x80 + n / 4096 % 64 ∧
      0x80 + n / 4096 % 64 ≤ (secondBounds (0xF0 + n / 262144)).2 := by
  unfold secondBounds
  split_ifs <;> constructor <;> dsimp only <;> omega

theorem piece_four {n : Nat} (hlow : 0x10000 ≤ n) (hhigh : n < 0x110000) (bytes : Bytes) :
    piece (UInt8.ofNat (0xF0 + n / 262144))
      (UInt8.ofNat (0x80 + n / 4096 % 64) :: UInt8.ofNat (0x80 + n / 64 % 64) ::
        UInt8.ofNat (0x80 + n % 64) :: bytes) = .rune ⟨n⟩ 4 := by
  have hlength : sequenceLength (0xF0 + n / 262144) = 4 := by
    unfold sequenceLength
    split_ifs <;> omega
  obtain ⟨hfirst, hlast⟩ := secondBounds_four hlow hhigh
  have hvalue : (((0xF0 + n / 262144 - 0xF0) * 64 + n / 4096 % 64) * 64 + n / 64 % 64) * 64 +
      n % 64 = n := by omega
  simp only [piece, toNat_ofNat (show 0xF0 + n / 262144 < 256 by omega), hlength]
  rw [continueSequence_step (by omega) hfirst hlast,
    continueSequence_step (by omega) (by simp) (by simp; omega),
    continueSequence_step (by omega) (by simp) (by simp; omega), continueSequence_done, hvalue]

/-- A character is read back from its bytes, whatever follows them. -/
theorem piece_encodeRune {r : Rune} (hcode : IsCodePoint r) (hsurrogate : r.isSurrogate = false)
    (bytes : Bytes) :
    ∃ lead more, encodeRune r = lead :: more ∧
      piece lead (more ++ bytes) = .rune r (more.length + 1) := by
  obtain ⟨n⟩ := r
  change n < 0x110000 at hcode
  have hscalar : n < 0xD800 ∨ 0xDFFF < n := by
    by_contra hboth
    rw [Rune.isSurrogate, Rune.within] at hsurrogate
    simp only [Bool.and_eq_false_iff, decide_eq_false_iff_not] at hsurrogate
    omega
  unfold encodeRune
  dsimp only
  split
  · next hone =>
    refine ⟨_, [], rfl, ?_⟩
    have hlength : sequenceLength n = 1 := if_pos hone
    simp only [piece, toNat_ofNat (show n < 256 by omega), hlength]
    rfl
  · split
    · exact ⟨_, _, rfl, piece_two (by omega) (by omega) bytes⟩
    · split
      · exact ⟨_, _, rfl, piece_three (by omega) (by omega) hscalar bytes⟩
      · exact ⟨_, _, rfl, piece_four (by omega) hcode bytes⟩

/-! ## Texts -/

theorem decodeReplacing_bytesOf {t : Text} (hcodes : ∀ r ∈ t, IsCodePoint r)
    (hencodable : isEncodable t = true) : decodeReplacing (bytesOf t) = t := by
  induction t with
  | nil => rw [bytesOf, List.flatMap_nil, decodeReplacing]
  | cons r rest ih =>
    obtain ⟨hr, hrest⟩ := List.forall_mem_cons.1 hcodes
    rw [isEncodable, List.all_cons, Bool.and_eq_true] at hencodable
    obtain ⟨lead, more, hbytes, hpiece⟩ :=
      piece_encodeRune hr (by simpa using hencodable.1) (bytesOf rest)
    rw [bytesOf, List.flatMap_cons, hbytes, List.cons_append, decodeReplacing]
    rw [show rest.flatMap encodeRune = bytesOf rest from rfl, hpiece]
    dsimp only
    rw [Nat.add_sub_cancel, List.drop_left, ih hrest hencodable.2]

theorem continueSequence_lt {value taken missing : Nat} {bounds : Nat × Nat} {bytes : Bytes}
    {r : Rune} {size : Nat} (hbounds : bounds.2 ≤ 0xBF)
    (h : continueSequence value taken missing bounds bytes = .rune r size) :
    r.code < (value + 1) * 64 ^ missing := by
  induction bytes generalizing value taken missing bounds with
  | nil =>
    unfold continueSequence at h
    split at h
    · next hdone =>
      injection h with hr
      subst hdone hr
      simp
    · simp at h
  | cons b rest ih =>
    unfold continueSequence at h
    split at h
    · next hdone =>
      injection h with hr
      subst hdone hr
      simp
    · next hmore =>
      split at h
      · next hin =>
        obtain ⟨missing, rfl⟩ := Nat.exists_eq_succ_of_ne_zero hmore
        have hrest := ih (by decide) h
        have hvalue : value * 64 + (b.toNat - 0x80) + 1 ≤ (value + 1) * 64 := by omega
        calc r.code < (value * 64 + (b.toNat - 0x80) + 1) * 64 ^ missing := hrest
          _ ≤ (value + 1) * 64 * 64 ^ missing := Nat.mul_le_mul_right _ hvalue
          _ = (value + 1) * 64 ^ (missing + 1) := by rw [Nat.pow_succ', Nat.mul_assoc]
      · cases h

theorem secondBounds_le (lead : Nat) : (secondBounds lead).2 ≤ 0xBF := by
  unfold secondBounds
  split_ifs <;> simp

theorem isCodePoint_of_last {bytes : Bytes} {r : Rune} {size : Nat}
    (h : continueSequence 4 1 3 (0x80, 0x8F) bytes = .rune r size) : IsCodePoint r := by
  cases bytes with
  | nil => cases h
  | cons b rest =>
    unfold continueSequence at h
    rw [if_neg (by omega)] at h
    split at h
    · next hin =>
      have hlt := continueSequence_lt (by decide) h
      unfold IsCodePoint
      dsimp only at hin
      omega
    · cases h

theorem sequenceLength_else {lead : Nat} (hzero : sequenceLength lead ≠ 0)
    (hone : sequenceLength lead ≠ 1) (htwo : sequenceLength lead ≠ 2)
    (hthree : sequenceLength lead ≠ 3) : 0xF0 ≤ lead ∧ lead < 0xF5 := by
  unfold sequenceLength at hzero hone htwo hthree
  split_ifs at hzero hone htwo hthree <;> omega

theorem isCodePoint_of_piece {lead : UInt8} {bytes : Bytes} {r : Rune} {size : Nat}
    (h : piece lead bytes = .rune r size) : IsCodePoint r := by
  have hlead := lead.toNat_lt
  unfold piece at h
  dsimp only at h
  unfold IsCodePoint
  split at h
  · cases h
  · injection h with hr
    rw [← hr]
    dsimp only
    omega
  · have hlt := continueSequence_lt (secondBounds_le _) h
    omega
  · have hlt := continueSequence_lt (secondBounds_le _) h
    omega
  · next hzero hone htwo hthree =>
    have hrange : 0xF0 ≤ lead.toNat ∧ lead.toNat < 0xF5 := by
      apply sequenceLength_else hzero hone htwo hthree
    by_cases hlast : lead.toNat = 0xF4
    · rw [hlast] at h
      exact isCodePoint_of_last h
    · have hlt := continueSequence_lt (secondBounds_le _) h
      omega

theorem isCodePoint_of_mem_decodeReplacing (bytes : Bytes) :
    ∀ r ∈ decodeReplacing bytes, IsCodePoint r := by
  fun_induction decodeReplacing bytes with
  | case1 => simp
  | case2 b rest r size hpiece ih =>
    exact List.forall_mem_cons.2 ⟨isCodePoint_of_piece hpiece, ih⟩
  | case3 b rest reason size hpiece ih =>
    exact List.forall_mem_cons.2 ⟨by decide, ih⟩

end Utf8

namespace Text

theorem mem_unifyLineEnds {t : Text} {r : Rune} (h : r ∈ unifyLineEnds t) :
    r.code ≠ 0x0D ∧ (r ∈ t ∨ r = ⟨0x0A⟩) := by
  fun_induction unifyLineEnds t with
  | case1 => simp at h
  | case2 rest ih =>
    rcases List.mem_cons.1 h with rfl | h
    · exact ⟨by decide, .inr rfl⟩
    · exact (ih h).imp_right
        (Or.imp_left fun h => List.mem_cons_of_mem _ (List.mem_cons_of_mem _ h))
  | case3 rest hrest ih =>
    rcases List.mem_cons.1 h with rfl | h
    · exact ⟨by decide, .inr rfl⟩
    · exact (ih h).imp_right (Or.imp_left (List.mem_cons_of_mem _))
  | case4 x rest hbreak hreturn ih =>
    rcases List.mem_cons.1 h with rfl | h
    · refine ⟨fun hcode => ?_, .inl List.mem_cons_self⟩
      exact hreturn (congrArg Rune.mk hcode)
    · exact (ih h).imp_right (Or.imp_left (List.mem_cons_of_mem _))

theorem unifyLineEnds_of_not_mem {t : Text} (h : ∀ r ∈ t, r.code ≠ 0x0D) : unifyLineEnds t = t := by
  fun_induction unifyLineEnds t with
  | case1 => rfl
  | case2 rest ih => exact absurd rfl (h _ List.mem_cons_self)
  | case3 rest hrest ih => exact absurd rfl (h _ List.mem_cons_self)
  | case4 x rest hbreak hreturn ih =>
    rw [ih fun r hr => h r (List.mem_cons_of_mem _ hr)]

end Text

namespace Utf8

/-- A character that files can hold, surrogates aside, and that reading leaves alone. -/
def IsStable (r : Rune) : Prop := IsCodePoint r ∧ r.code ≠ 0x0D

instance (r : Rune) : Decidable (IsStable r) := inferInstanceAs (Decidable (_ ∧ _))

theorem isStable_of_isAsciiWord {r : Rune} (h : r.isAsciiWord = true) : IsStable r := by
  simp only [Rune.isAsciiWord, Rune.isAsciiLetter, Rune.isAsciiUpper, Rune.isAsciiLower,
    Rune.isAsciiDigit, Rune.within, Bool.or_eq_true, Bool.and_eq_true, decide_eq_true_eq,
    beq_iff_eq] at h
  unfold IsStable IsCodePoint
  omega

theorem unifyLineEnds_decodeReplacing {t : Text} (hstable : ∀ r ∈ t, IsStable r)
    (hencodable : isEncodable t = true) : (decodeReplacing (bytesOf t)).unifyLineEnds = t := by
  rw [decodeReplacing_bytesOf (fun r hr => (hstable r hr).1) hencodable]
  exact Text.unifyLineEnds_of_not_mem fun r hr => (hstable r hr).2

/-- Whatever is read can be written so that it is read back. -/
theorem isStable_of_mem_read (bytes : Bytes) :
    ∀ r ∈ (decodeReplacing bytes).unifyLineEnds, IsStable r := by
  intro r hr
  obtain ⟨hreturn, hmem⟩ := Text.mem_unifyLineEnds hr
  refine ⟨?_, hreturn⟩
  rcases hmem with hmem | rfl
  · exact isCodePoint_of_mem_decodeReplacing bytes r hmem
  · decide

end Utf8

end Nomenclator

import Mathlib.Data.List.Permutation
import Nomenclator.Proofs.Listing.Pattern
import Nomenclator.Proofs.Listing.Rewritten

/-!
# Matches and what stands between them

A listing is taken apart at the matches of the pattern of a separator, one after the other. From the
first match on nothing is lost: each block is a match with the text below it, but for line breaks at
their ends.
-/

namespace Nomenclator.Listing

/-! ## Places -/

/-- The pattern, tried behind `before`, matches `a`. -/
def MatchesAt (before a after : Text) : Prop :=
  separatorPattern.run (.between before (a ++ after)) some = some (.between (before ++ a) after)

instance (before a after : Text) : Decidable (MatchesAt before a after) :=
  inferInstanceAs (Decidable (_ = _))

/-- The pattern matches nowhere from a place in `part`, which has characters behind it there. -/
def NoMatchIn (before part after : Text) : Prop :=
  ∀ u w, part = u ++ w → w ≠ [] →
    separatorPattern.run (.between (before ++ u) (w ++ after)) some = none

theorem matchesAt_iff (before a after : Text) :
    MatchesAt before a after ↔
      startsLine true before = true ∧ separator? (a ++ after) = some a := by
  unfold MatchesAt
  rw [run_separatorPattern]
  constructor
  · intro h
    split at h
    · next hline =>
      obtain ⟨a', ha', hsame⟩ := Option.map_eq_some_iff.1 h
      have hbefore : (before ++ a').reverse = (before ++ a).reverse :=
        congrArg Position.before hsame
      obtain rfl : a' = a := List.append_cancel_left (List.reverse_injective hbefore)
      exact ⟨hline, ha'⟩
    · simp at h
  · rintro ⟨hline, ha⟩
    rw [if_pos hline, ha]
    simp

theorem run_eq_none_iff (before s : Text) :
    separatorPattern.run (.between before s) some = none ↔
      (startsLine true before = true → separator? s = none) := by
  rw [run_separatorPattern]
  split <;> simp [*]

theorem noMatchIn_nil (before after : Text) : NoMatchIn before [] after := by
  intro u w hsplit hsome
  exact absurd (List.append_eq_nil_iff.1 hsplit.symm).2 hsome

theorem NoMatchIn.cons {before after part : Text} {r : Rune}
    (hfirst : separatorPattern.run (.between before (r :: part ++ after)) some = none)
    (h : NoMatchIn (before ++ [r]) part after) : NoMatchIn before (r :: part) after := by
  intro u w hsplit hsome
  cases u with
  | nil =>
    rw [List.nil_append] at hsplit
    rw [List.append_nil, ← hsplit]
    exact hfirst
  | cons r' u =>
    rw [List.cons_append] at hsplit
    injection hsplit with hr hpart
    subst hr
    have hrest := h u w hpart hsome
    rwa [List.append_assoc] at hrest

/-! ## Matches and bodies in turn -/

def ofPieces (pieces : List (Text × Text)) : Text := pieces.flatMap fun piece => piece.1 ++ piece.2

/-- Behind `before`, pieces that are a match each, and a body in which no match starts. -/
inductive Alternates : Text → List (Text × Text) → Prop
  | nil (before : Text) : Alternates before []
  | cons {before a body : Text} {more : List (Text × Text)} :
    MatchesAt before a (body ++ ofPieces more) → NoMatchIn (before ++ a) body (ofPieces more) →
      Alternates (before ++ a ++ body) more → Alternates before ((a, body) :: more)

/-- The place behind `before` counts as the start of a line as `b` says, as far as it matters. -/
def StartsAs (b : Bool) (before s : Text) : Prop :=
  (b = true → startsLine true before = true) ∧
    (startsLine true before = true → b = true ∨ separator? s = none)

theorem startsAs_behind (before : Text) (r : Rune) (rest : Text) :
    StartsAs (r.code == 0x0A) (before ++ [r]) rest := by
  have hline : startsLine true (before ++ [r]) = (r.code == 0x0A) := by
    rw [startsLine_append]
    rfl
  unfold StartsAs
  rw [hline]
  exact ⟨id, .inl⟩

theorem separator?_of_atLineEnd {s : Text} (h : atLineEnd s = true) : separator? s = none := by
  refine separator?_of_not_slashes fun hslashes => ?_
  obtain ⟨t, rfl⟩ := hslashes
  exact absurd h (by simp [atLineEnd])

theorem startsAs_separator {a rest : Text} (h : separator? (a ++ rest) = some a) (before : Text) :
    StartsAs false (before ++ a) rest := by
  obtain ⟨rest', hsplit, -, hend⟩ := isSeparator_of_separator? h
  obtain rfl := List.append_cancel_left hsplit
  exact ⟨by simp, fun _ => .inr (separator?_of_atLineEnd hend)⟩

theorem cut_alternates (b : Bool) (s : Text) :
    ∀ before, StartsAs b before s →
      NoMatchIn before (cut b s).1 (ofPieces (cut b s).2) ∧
        Alternates (before ++ (cut b s).1) (cut b s).2 := by
  induction b, s using cut_induction with
  | nil b =>
    intro before _
    rw [cut_nil]
    exact ⟨noMatchIn_nil _ _, .nil _⟩
  | separator a rest h ih =>
    intro before hstart
    -- what a separator ends before is the end of a line, so none starts there
    obtain ⟨hbody, hmore⟩ := ih (before ++ a) (startsAs_separator h before)
    rw [cut_separator h, List.append_nil]
    refine ⟨noMatchIn_nil _ _, .cons ?_ hbody hmore⟩
    rw [ofPieces, flatten_cut, matchesAt_iff]
    exact ⟨hstart.1 rfl, h⟩
  | cons b r rest h ih =>
    intro before hstart
    obtain ⟨hbody, hmore⟩ := ih (before ++ [r]) (startsAs_behind before r rest)
    rw [cut_cons h]
    refine ⟨.cons ?_ hbody, by rwa [List.append_assoc] at hmore⟩
    rw [List.cons_append, ofPieces, flatten_cut, run_eq_none_iff]
    exact fun hline => (hstart.2 hline).elim h id

/-! ## Blocks -/

/-- The block of a piece has its match without carriage returns at the end, and its body without
line breaks at both ends and with a line feed behind it. -/
structure IsBlockOf (piece : Text × Text) (block : Block) : Prop where
  separator : ∃ returns, piece.1 = block.separator ++ returns ∧ (∀ r ∈ returns, r.code = 0x0D) ∧
    ∀ r ∈ block.separator.getLast?, r.code ≠ 0x0D
  body : ∃ above kept below, piece.2 = above ++ kept ++ below ∧ block.body = kept ++ [⟨0x0A⟩] ∧
    (∀ r ∈ above ++ below, isLineBreak r = true) ∧ (∀ r ∈ kept.head?, isLineBreak r = false) ∧
      ∀ r ∈ kept.getLast?, isLineBreak r = false

theorem isBlockOf_of_block? {piece : Text × Text} {block : Block} (h : block? piece = some block) :
    IsBlockOf piece block := by
  obtain ⟨hseparator, hbody⟩ := block?_eq_some h
  constructor
  · rw [hseparator]
    obtain ⟨returns, hreturns, hall⟩ :=
      Text.exists_dropEndWhile (fun r => r.code == 0x0D) piece.1
    refine ⟨returns, hreturns, by simpa using hall, fun r hr => ?_⟩
    simpa using Text.getLast?_dropEndWhile r hr
  · obtain ⟨below, hbelow, hall⟩ :=
      Text.exists_dropEndWhile isLineBreak (piece.2.dropWhile isLineBreak)
    refine ⟨piece.2.takeWhile isLineBreak, Text.trim isLineBreak piece.2, below, ?_, hbody, ?_,
      Text.head?_trim, Text.getLast?_dropEndWhile⟩
    · rw [List.append_assoc, Text.trim, ← hbelow, List.takeWhile_append_dropWhile]
    · rw [List.forall_mem_append]
      exact ⟨fun r => List.mem_takeWhile_imp, hall⟩

theorem filterMap_block?_isBlockOf (pieces : List (Text × Text)) :
    List.Forall₂ IsBlockOf (pieces.filter fun piece => !Text.isBlank piece.2)
      (pieces.filterMap block?) := by
  induction pieces with
  | nil => exact .nil
  | cons piece rest ih =>
    by_cases hblank : Text.isBlank piece.2 = true
    · rw [List.filter_cons_of_neg (by simpa using hblank), List.filterMap_cons, block?_eq,
        if_pos hblank]
      exact ih
    · have hblock := (block?_eq piece).trans (if_neg hblank)
      rw [List.filter_cons_of_pos (by simpa using hblank), List.filterMap_cons, hblock]
      exact .cons (isBlockOf_of_block? hblock) ih

/-- From its first match on, a text with a match is matches and bodies in turn, and its blocks are
those whose bodies are not blank, up to line breaks. No match starts anywhere else. -/
theorem blocks_of_matches (text : Text)
    (h : ∃ before a after, text = before ++ (a ++ after) ∧ MatchesAt before a after) :
    ∃ before pieces, text = before ++ ofPieces pieces ∧ pieces ≠ [] ∧
      NoMatchIn [] before (ofPieces pieces) ∧ Alternates before pieces ∧
      List.Forall₂ IsBlockOf (pieces.filter fun piece => !Text.isBlank piece.2) (blocks text) := by
  obtain ⟨hclear, hpieces⟩ := cut_alternates true text [] ⟨fun _ => rfl, fun _ => .inl rfl⟩
  have hsplit : text = (cut true text).1 ++ ofPieces (cut true text).2 :=
    (flatten_cut true text).symm
  have hsome : (cut true text).2 ≠ [] := by
    intro hnone
    obtain ⟨before, a, after, htext, hmatch⟩ := h
    have ha := ((matchesAt_iff before a after).1 hmatch).2
    rw [hnone, ofPieces, List.flatMap_nil, List.append_nil] at hsplit
    rw [hnone, ← hsplit] at hclear
    have hrun := hclear before (a ++ after) htext (by simp [separator_ne_nil ha])
    rw [ofPieces, List.flatMap_nil, List.append_nil, List.nil_append] at hrun
    exact absurd (hrun.symm.trans hmatch) (by simp)
  refine ⟨(cut true text).1, (cut true text).2, hsplit, hsome, hclear, hpieces, ?_⟩
  rw [blocks_of_pieces hsome]
  exact filterMap_block?_isBlockOf _

def dashedListing : Text :=
  "#include <a.h>\r\n//----- (1F) ---\r\n\r\n//----- (20)\n\n---\nint f;\r\n\n//-----(3)\n x"

theorem blocks_of_matches_dashed :
    (∃ before a after, dashedListing = before ++ (a ++ after) ∧ MatchesAt before a after) ∧
      blocks dashedListing = [⟨"//----- (20)\n\n---", "int f;\n"⟩, ⟨"//-----(3)", " x\n"⟩] ∧
      ∃ before pieces, dashedListing = before ++ ofPieces pieces ∧ pieces ≠ [] ∧
        NoMatchIn [] before (ofPieces pieces) ∧ Alternates before pieces ∧
        List.Forall₂ IsBlockOf (pieces.filter fun piece => !Text.isBlank piece.2)
          (blocks dashedListing) := by
  have hmatch : ∃ before a after, dashedListing = before ++ (a ++ after) ∧
      MatchesAt before a after :=
    ⟨"#include <a.h>\r\n", "//----- (1F) ---\r",
      "\n\r\n//----- (20)\n\n---\nint f;\r\n\n//-----(3)\n x", by cbv, by cbv⟩
  exact ⟨hmatch, by cbv, blocks_of_matches dashedListing hmatch⟩

end Nomenclator.Listing

import Mathlib.Data.List.Infix
import Nomenclator.Comment.Block
import Nomenclator.Proofs.Listing.Rewritten

/-!
# The lines of a comment

Filling only moves the characters of a paragraph and drops blanks. So a comment has one line for the
name, which a line feed in the name alone can break, and none of its lines holds an address.
-/

namespace Nomenclator

/-! ## Characters -/

namespace Text

theorem mem_of_mem_replaceAll {t old new : Text} {r : Rune} (h : r ∈ replaceAll t old new) :
    r ∈ t ∨ r ∈ new := by
  fun_induction replaceAll t old new with
  | case1 => exact .inl h
  | case2 x rest hold ih =>
    rcases List.mem_append.1 h with h | h
    · exact .inr h
    · exact (ih h).imp (fun h => List.mem_cons_of_mem _ (List.mem_of_mem_drop h)) id
  | case3 x rest hold ih =>
    rcases List.mem_cons.1 h with rfl | h
    · exact .inl List.mem_cons_self
    · exact (ih h).imp (List.mem_cons_of_mem _) id

theorem mem_of_mem_expandTabsFrom {width column : Nat} {t : Text} {r : Rune}
    (h : r ∈ expandTabsFrom width column t) : r ∈ t ∨ r = ⟨0x20⟩ := by
  fun_induction expandTabsFrom width column t with
  | case1 => exact .inl h
  | case2 column x rest hx step ih =>
    rcases List.mem_append.1 h with h | h
    · exact .inr (List.eq_of_mem_replicate h)
    · exact (ih h).imp (List.mem_cons_of_mem _) id
  | case3 column x rest hx hbreak ih =>
    rcases List.mem_cons.1 h with rfl | h
    · exact .inl List.mem_cons_self
    · exact (ih h).imp (List.mem_cons_of_mem _) id
  | case4 column x rest hx hbreak ih =>
    rcases List.mem_cons.1 h with rfl | h
    · exact .inl List.mem_cons_self
    · exact (ih h).imp (List.mem_cons_of_mem _) id

end Text

namespace Chunk

theorem flatten_split (before s : Text) : (split before s).flatten = s := by
  fun_induction split before s with
  | case1 => rfl
  | case2 before r rest n ih =>
    rw [List.flatten_cons, ih, List.cons_append, List.take_append_drop]

theorem mem_of_mem_unifySpaces {t : Text} {r : Rune} (h : r ∈ unifySpaces t) :
    r = ⟨0x20⟩ ∨ r ∈ t ∧ r.within 0x09 0x0D = false := by
  obtain ⟨x, hx, rfl⟩ := List.mem_map.1 h
  split
  · exact .inl rfl
  · next hwithin =>
    rcases Text.mem_of_mem_expandTabsFrom hx with hx | rfl
    · exact .inr ⟨hx, by simpa using hwithin⟩
    · exact .inl rfl

end Chunk

namespace Fill

/-! ## What a line takes -/

theorem takeFitting_append (room : Int) (chunks : List Text) :
    (takeFitting room chunks).1 ++ (takeFitting room chunks).2 = chunks := by
  fun_induction takeFitting room chunks with
  | case1 => rfl
  | case2 room chunk rest hfits line others hrest ih =>
    rw [hrest] at ih
    exact congrArg (chunk :: ·) ih
  | case3 => rfl

theorem takeLine_flatten (width : Int) (chunks : List Text) :
    (takeLine width chunks).1.flatten ++ (takeLine width chunks).2.flatten = chunks.flatten := by
  have happend := takeFitting_append width chunks
  unfold takeLine
  split
  · next line chunk rest htake =>
    rw [htake] at happend
    have hflatten := congrArg List.flatten happend
    split
    · -- the chunk is cut in two
      rw [← hflatten]
      simp only [List.flatten_append, List.flatten_cons, List.flatten_nil, List.append_nil,
        List.append_assoc]
      rw [← List.append_assoc (List.take _ chunk), List.take_append_drop]
    · rw [← hflatten, List.flatten_append]
  · rw [← List.flatten_append, happend]

theorem isSuffix_dropBlankHead (chunks : List Text) : dropBlankHead chunks <:+ chunks := by
  unfold dropBlankHead
  split
  · split
    · exact List.suffix_cons _ _
    · exact List.suffix_rfl
  · exact List.suffix_rfl

theorem isPrefix_dropBlankLast (chunks : List Text) : dropBlankLast chunks <+: chunks := by
  have h := List.reverse_prefix.2 (isSuffix_dropBlankHead chunks.reverse)
  rwa [List.reverse_reverse] at h

theorem isSuffix_trimmed (started : Bool) (chunks : List Text) :
    (if started then dropBlankHead chunks else chunks) <:+ chunks := by
  split
  · exact isSuffix_dropBlankHead chunks
  · exact List.suffix_rfl

theorem isInfix_of_takeLine {width : Int} {chunks trimmed line left : List Text}
    (htrimmed : trimmed <:+ chunks) (htake : takeLine width trimmed = (line, left)) :
    (dropBlankLast line).flatten <:+: chunks.flatten ∧ left.flatten <:+: chunks.flatten := by
  have hflatten := takeLine_flatten width trimmed
  rw [htake] at hflatten
  have hpart : trimmed.flatten <:+: chunks.flatten := htrimmed.isInfix.flatten
  have hline : line.flatten <:+: trimmed.flatten := hflatten ▸ List.infix_append [] _ _
  have hleft : left.flatten <:+: trimmed.flatten := hflatten ▸ (List.suffix_append _ _).isInfix
  exact ⟨((isPrefix_dropBlankLast line).flatten.isInfix.trans hline).trans hpart,
    hleft.trans hpart⟩

theorem isInfix_of_mem_lines {width : Int} {started : Bool} {chunks : List Text} {t : Text}
    (h : t ∈ lines width started chunks) : t <:+: chunks.flatten := by
  fun_induction lines width started chunks with
  | case1 => simp at h
  | case2 started chunk rest trimmed line left htake line' hless hempty =>
    rename_i ih
    exact (ih h).trans (isInfix_of_takeLine (isSuffix_trimmed started (chunk :: rest)) htake).2
  | case3 started chunk rest trimmed line left htake line' hless hsome =>
    rename_i ih
    have hstep := isInfix_of_takeLine (isSuffix_trimmed started (chunk :: rest)) htake
    rcases List.mem_cons.1 h with rfl | h
    · exact hstep.1
    · exact (ih h).trans hstep.2
  | case4 => simp at h
  | case5 started chunk rest trimmed line left htake line' hless =>
    obtain rfl := List.mem_singleton.1 h
    exact (isInfix_of_takeLine (isSuffix_trimmed started (chunk :: rest)) htake).1

end Fill

namespace Comment

open Listing

/-! ## Lines of a comment -/

/-- The lines of a description; without words it has one that is empty. -/
def paragraphLines (width : Int) (t : Text) : List Text :=
  match (Fill.lines (width - 3) false (Chunk.ofText t)).map ((" * " : Text) ++ ·) with
  | [] => [[]]
  | lines => lines

def blockLines (name description : Text) (width : Int) : List Text :=
  (["/*", " * " ++ defuse name ++ "()", " *"] : List Text) ++
    paragraphLines width (defuse description) ++ ([" */", ""] : List Text)

theorem ofLines_append (lines rest : List Text) :
    ofLines (lines ++ rest) = ofLines lines ++ ofLines rest := List.flatMap_append

theorem ofLines_eq_join {lines : List Text} (h : lines ≠ []) :
    ofLines lines = Text.join [⟨0x0A⟩] lines ++ [⟨0x0A⟩] := by
  induction lines with
  | nil => exact absurd rfl h
  | cons line rest ih =>
    by_cases hrest : rest = []
    · subst hrest
      rw [ofLines_cons]
      rfl
    · rw [ofLines_cons, ih hrest, Text.join_cons _ _ hrest]
      simp

theorem ofLines_paragraphLines (width : Int) (t : Text) :
    ofLines (paragraphLines width t) = Fill.paragraph width " * " t ++ [⟨0x0A⟩] := by
  have hmargin : ((" * " : Text).length : Int) = 3 := by decide
  unfold paragraphLines Fill.paragraph
  rw [hmargin]
  split
  · next hnone => rw [hnone]; rfl
  · next hsome => exact ofLines_eq_join hsome

theorem block_eq_ofLines (name description : Text) (width : Int) :
    block name description width = ofLines (blockLines name description width) := by
  unfold blockLines block
  rw [ofLines_append, ofLines_append, ofLines_paragraphLines]
  have hopen : Text.ofString "/*\n * " =
      Text.ofString "/*" ++ [⟨0x0A⟩] ++ Text.ofString " * " := rfl
  have hname : Text.ofString "()\n *\n" =
      Text.ofString "()" ++ [⟨0x0A⟩] ++ Text.ofString " *" ++ [⟨0x0A⟩] := rfl
  have hclose : Text.ofString "\n */\n\n" = [⟨0x0A⟩] ++ ofLines ([" */", ""] : List Text) := rfl
  rw [Text.concat, hopen, hname, hclose]
  simp [ofLines]

/-! ## Characters of a comment -/

variable {p : Rune → Prop}

theorem forall_mem_defuse {t : Text} (hmarks : ∀ r ∈ Text.ofString " */()", p r)
    (ht : ∀ r ∈ t, p r) : ∀ r ∈ defuse t, p r := by
  have hnew : ∀ r ∈ Text.ofString "* /", r ∈ Text.ofString " */()" := by decide
  intro r hr
  rcases Text.mem_of_mem_replaceAll hr with hr | hr
  · exact ht r hr
  · exact hmarks r (hnew r hr)

theorem forall_mem_paragraphLines {width : Int} {t : Text}
    (hmarks : ∀ r ∈ Text.ofString " */()", p r)
    (ht : ∀ r ∈ t, r.within 0x09 0x0D = false → p r) :
    ∀ line ∈ paragraphLines width t, ∀ r ∈ line, p r := by
  have hmargin : ∀ r ∈ Text.ofString " * ", r ∈ Text.ofString " */()" := by decide
  intro line hline r hr
  unfold paragraphLines at hline
  split at hline
  · obtain rfl := List.mem_singleton.1 hline
    simp at hr
  · obtain ⟨words, hwords, rfl⟩ := List.mem_map.1 hline
    rcases List.mem_append.1 hr with hr | hr
    · exact hmarks r (hmargin r hr)
    · have hspaces := (Fill.isInfix_of_mem_lines hwords).subset hr
      rw [Chunk.ofText, Chunk.flatten_split] at hspaces
      rcases Chunk.mem_of_mem_unifySpaces hspaces with rfl | ⟨hmem, hwithin⟩
      · exact hmarks _ (by decide)
      · exact ht r hmem hwithin

/-- What is true of the characters of a name, of those of a description that are no line breaks or
tabs, and of the marks of a comment is true of the characters of its lines. -/
theorem forall_mem_blockLines {name description : Text} {width : Int}
    (hmarks : ∀ r ∈ Text.ofString " */()", p r) (hname : ∀ r ∈ name, p r)
    (hdescription : ∀ r ∈ description, r.within 0x09 0x0D = false → p r) :
    ∀ line ∈ blockLines name description width, ∀ r ∈ line, p r := by
  have hfixed : ∀ t ∈ (["/*", " * ", "()", " *", " */", ""] : List Text), ∀ r ∈ t, p r := by
    have hsub : ∀ t ∈ (["/*", " * ", "()", " *", " */", ""] : List Text), ∀ r ∈ t,
        r ∈ Text.ofString " */()" := by decide
    exact fun t ht r hr => hmarks r (hsub t ht r hr)
  simp only [List.forall_mem_cons] at hfixed
  obtain ⟨hopen, hmargin, hcall, hempty, hclose, hlast, -⟩ := hfixed
  have hparagraph : ∀ line ∈ paragraphLines width (defuse description), ∀ r ∈ line, p r :=
    forall_mem_paragraphLines hmarks (forall_mem_defuse (fun r hr _ => hmarks r hr) hdescription)
  simp only [blockLines, List.forall_mem_append, List.forall_mem_cons]
  exact ⟨⟨⟨hopen, ⟨⟨hmargin, forall_mem_defuse hmarks hname⟩, hcall⟩, hempty, by simp⟩, hparagraph⟩,
    hclose, hlast, by simp⟩

theorem forall_mem_block {name description : Text} {width : Int} (hfeed : p ⟨0x0A⟩)
    (hmarks : ∀ r ∈ Text.ofString " */()", p r) (hname : ∀ r ∈ name, p r)
    (hdescription : ∀ r ∈ description, r.within 0x09 0x0D = false → p r) :
    ∀ r ∈ block name description width, p r := by
  rw [block_eq_ofLines]
  intro r hr
  obtain ⟨line, hline, hr⟩ := List.mem_flatMap.1 hr
  rcases List.mem_append.1 hr with hr | hr
  · exact forall_mem_blockLines hmarks hname hdescription line hline r hr
  · obtain rfl := List.mem_singleton.1 hr
    exact hfeed

theorem head_of_mem_paragraphLines {width : Int} {t line : Text}
    (h : line ∈ paragraphLines width t) : ∀ r ∈ line.head?, r = ⟨0x20⟩ := by
  unfold paragraphLines at h
  split at h
  · obtain rfl := List.mem_singleton.1 h
    simp
  · obtain ⟨words, -, rfl⟩ := List.mem_map.1 h
    rintro r ⟨⟩
    rfl

theorem not_slashes_of_mem_blockLines {name description line : Text} {width : Int}
    (h : line ∈ blockLines name description width) : ¬[⟨0x2F⟩, ⟨0x2F⟩] <+: line := by
  have hother : (∀ r ∈ line.head?, r = ⟨0x20⟩) → ¬[⟨0x2F⟩, ⟨0x2F⟩] <+: line := by
    rintro hhead ⟨t, rfl⟩
    exact absurd (hhead _ rfl) (by decide)
  simp only [blockLines, List.mem_append, List.mem_cons, List.not_mem_nil, or_false] at h
  rcases h with ((rfl | rfl | rfl) | h) | rfl | rfl
  · decide
  · exact hother (by rintro r ⟨⟩; rfl)
  · exact hother (by rintro r ⟨⟩; rfl)
  · exact hother (head_of_mem_paragraphLines h)
  · exact hother (by rintro r ⟨⟩; rfl)
  · exact hother (by simp [Text.ofString])

theorem ne_lineFeed_of_within {r : Rune} (h : r.within 0x09 0x0D = false) : r.code ≠ 0x0A := by
  intro hcode
  rw [Rune.within, hcode] at h
  exact Bool.noConfusion h

/-- A line feed in the name is all that can put an address into a comment. -/
theorem isHeading_block {name : Text} (hname : ∀ r ∈ name, r.code ≠ 0x0A) (description : Text)
    (width : Int) : IsHeading (block name description width) := by
  have hfeeds : ∀ line ∈ blockLines name description width, ∀ r ∈ line, r.code ≠ 0x0A :=
    forall_mem_blockLines (by decide) hname fun _ _ => ne_lineFeed_of_within
  refine ⟨[⟨0x2A⟩], _, block_eq_ofLines name description width, fun line hline => ?_⟩
  exact ⟨hfeeds line hline, not_slashes_of_mem_blockLines hline⟩

end Comment

end Nomenclator

import Mathlib.Data.List.Chain
import Nomenclator.Proofs.Comment.Lines

/-!
# Where a comment closes

A comment closes where a star stands before a slash. Text from a model has no such place once it is
defused, and no step of filling brings a star before a slash: tabs leave blanks, lines are parts of
the text, and a margin ends in a blank. So a comment closes at its end and nowhere else.
-/

namespace Nomenclator

open Listing

/-! ## Stars before slashes -/

/-- No star stands before a slash. -/
def IsOpen (t : Text) : Prop := t.IsChain fun a b => ¬(a = ⟨0x2A⟩ ∧ b = ⟨0x2F⟩)

instance (t : Text) : Decidable (IsOpen t) := inferInstanceAs (Decidable (t.IsChain _))

variable {s t : Text}

theorem isOpen_cons {r : Rune} :
    IsOpen (r :: t) ↔ (∀ next ∈ t.head?, ¬(r = ⟨0x2A⟩ ∧ next = ⟨0x2F⟩)) ∧ IsOpen t :=
  List.isChain_cons

theorem IsOpen.append_of_last (hs : IsOpen s) (ht : IsOpen t) (h : s.getLast? ≠ some ⟨0x2A⟩) :
    IsOpen (s ++ t) := by
  refine List.IsChain.append hs ht fun last hlast first _ hmark => h ?_
  rw [← hmark.1]
  exact hlast

theorem IsOpen.append_of_head (hs : IsOpen s) (ht : IsOpen t) (h : t.head? ≠ some ⟨0x2F⟩) :
    IsOpen (s ++ t) := by
  refine List.IsChain.append hs ht fun last _ first hfirst hmark => h ?_
  rw [← hmark.2]
  exact hfirst

theorem IsOpen.part (ht : IsOpen t) (h : s <:+: t) : IsOpen s := List.IsChain.infix ht h

theorem not_isOpen_closing : ¬IsOpen (s ++ ⟨0x2A⟩ :: ⟨0x2F⟩ :: t) := by
  intro h
  have hmark : IsOpen [⟨0x2A⟩, ⟨0x2F⟩] := h.part ⟨s, t, by simp⟩
  exact absurd hmark (by decide)

/-- Between two texts without it, the closing mark stands at one place only. -/
theorem closing_unique {before after : Text} (hbefore : IsOpen before) (hafter : IsOpen after)
    (h : s ++ ⟨0x2A⟩ :: ⟨0x2F⟩ :: t = before ++ ⟨0x2A⟩ :: ⟨0x2F⟩ :: after) :
    s = before ∧ t = after := by
  rcases List.append_eq_append_iff.1 h with ⟨more, hmore, hrest⟩ | ⟨more, hmore, hrest⟩
  · -- the place on the left side is the earlier one
    match more, hrest with
    | [], hrest => simp_all
    | [r], hrest => simp at hrest
    | a :: b :: rest, hrest =>
      simp only [List.cons_append, List.cons.injEq] at hrest
      obtain ⟨rfl, rfl, -⟩ := hrest
      exact absurd (hmore ▸ hbefore) not_isOpen_closing
  · match more, hrest with
    | [], hrest => simp_all
    | [r], hrest => simp at hrest
    | a :: b :: rest, hrest =>
      simp only [List.cons_append, List.cons.injEq] at hrest
      obtain ⟨rfl, rfl, hrest⟩ := hrest
      exact absurd (hrest ▸ hafter) not_isOpen_closing

/-! ## Defused text -/

theorem head?_replaceAll {old new : Text} (h : old.head? = new.head?) (t : Text) :
    (Text.replaceAll t old new).head? = t.head? := by
  fun_induction Text.replaceAll t old new with
  | case1 => rfl
  | case2 r rest hold ih =>
    obtain ⟨hne, hprefix⟩ := hold
    obtain ⟨first, more, rfl⟩ := List.exists_cons_of_ne_nil hne
    obtain ⟨more', rfl⟩ : ∃ more', new = first :: more' := List.head?_eq_some_iff.1 h.symm
    obtain ⟨rfl, -⟩ := List.cons_prefix_cons.1 (List.isPrefixOf_iff_prefix.1 hprefix)
    rfl
  | case3 => rfl

theorem isOpen_defuse (t : Text) : IsOpen (Comment.defuse t) := by
  have hstar : (Text.ofString "*/").head? = (Text.ofString "* /").head? := rfl
  unfold Comment.defuse
  fun_induction Text.replaceAll t "*/" "* /" with
  | case1 => exact List.isChain_nil
  | case2 r rest hold ih =>
    exact IsOpen.append_of_last (by decide) ih (by decide)
  | case3 r rest hold ih =>
    refine isOpen_cons.2 ⟨?_, ih⟩
    rintro next hnext ⟨rfl, rfl⟩
    -- the two would have been replaced
    rw [head?_replaceAll hstar] at hnext
    obtain ⟨more, rfl⟩ := List.head?_eq_some_iff.1 hnext
    exact hold ⟨by decide, List.isPrefixOf_iff_prefix.2 ⟨more, rfl⟩⟩

/-! ## Filling -/

theorem isOpen_of_not_star (h : ∀ r ∈ t, r ≠ ⟨0x2A⟩) : IsOpen t := by
  induction t with
  | nil => exact List.isChain_nil
  | cons r rest ih =>
    rw [List.forall_mem_cons] at h
    exact isOpen_cons.2 ⟨fun _ _ hmark => h.1 hmark.1, ih h.2⟩

theorem isOpen_expandTabsFrom {width : Nat} (hwidth : 0 < width) (column : Nat) (h : IsOpen t) :
    IsOpen (Text.expandTabsFrom width column t) ∧
      ∀ r ∈ (Text.expandTabsFrom width column t).head?, r = ⟨0x20⟩ ∨ r ∈ t.head? := by
  have keep {r : Rune} {rest rest' : Text} (hopen : IsOpen (r :: rest)) (hrest : IsOpen rest')
      (hhead : ∀ x ∈ rest'.head?, x = ⟨0x20⟩ ∨ x ∈ rest.head?) :
      IsOpen (r :: rest') ∧ ∀ x ∈ (r :: rest').head?, x = ⟨0x20⟩ ∨ x ∈ (r :: rest).head? := by
    refine ⟨isOpen_cons.2 ⟨fun next hnext => ?_, hrest⟩, fun x hx => .inr hx⟩
    rcases hhead next hnext with rfl | hnext
    · simp
    · exact (isOpen_cons.1 hopen).1 next hnext
  fun_induction Text.expandTabsFrom width column t with
  | case1 => exact ⟨h, by simp⟩
  | case2 column r rest htab step ih =>
    obtain ⟨hopen, hhead⟩ := ih (isOpen_cons.1 h).2
    -- at least one blank is left of a tab, so a star before it meets no slash
    obtain ⟨n, hn⟩ : ∃ n, step = n + 1 := ⟨step - 1, by have := Nat.mod_lt column hwidth; omega⟩
    have hblanks : ∀ x ∈ Text.blanks step, x ≠ ⟨0x2A⟩ := by
      intro x hx
      rw [List.eq_of_mem_replicate hx]
      decide
    refine ⟨(isOpen_of_not_star hblanks).append_of_last hopen fun hlast => ?_, ?_⟩
    · exact hblanks _ (List.mem_of_getLast? hlast) rfl
    · intro x hx
      rw [hn] at hx
      exact .inl (Option.some.inj hx).symm
  | case3 column r rest htab hbreak ih =>
    obtain ⟨hopen, hhead⟩ := ih (isOpen_cons.1 h).2
    exact keep h hopen hhead
  | case4 column r rest htab hbreak ih =>
    obtain ⟨hopen, hhead⟩ := ih (isOpen_cons.1 h).2
    exact keep h hopen hhead

theorem isOpen_unifySpaces (h : IsOpen t) : IsOpen (Chunk.unifySpaces t) := by
  have hsame (r : Rune) (mark : Nat) (hmark : 0x20 < mark)
      (hr : (if r.within 0x09 0x0D then ⟨0x20⟩ else r) = (⟨mark⟩ : Rune)) : r = ⟨mark⟩ := by
    split at hr
    · exact absurd (congrArg Rune.code hr) hmark.ne
    · exact hr
  have hopen : IsOpen (t.expandTabs 8) := (isOpen_expandTabsFrom (by decide) 0 h).1
  refine (List.isChain_map _).2 (hopen.imp fun a b hab hmark => hab ?_)
  exact ⟨hsame a _ (by decide) hmark.1, hsame b _ (by decide) hmark.2⟩

namespace Comment

variable {width : Int}

theorem isOpen_of_mem_paragraphLines {line : Text} (ht : IsOpen t)
    (h : line ∈ paragraphLines width t) : IsOpen line := by
  unfold paragraphLines at h
  split at h
  · obtain rfl := List.mem_singleton.1 h
    exact List.isChain_nil
  · obtain ⟨words, hwords, rfl⟩ := List.mem_map.1 h
    have hpart := Fill.isInfix_of_mem_lines hwords
    rw [Chunk.ofText, Chunk.flatten_split] at hpart
    exact IsOpen.append_of_last (by decide) ((isOpen_unifySpaces ht).part hpart) (by decide)

theorem isOpen_ofLines {lines : List Text} (h : ∀ line ∈ lines, IsOpen line) :
    IsOpen (ofLines lines) := by
  induction lines with
  | nil => exact List.isChain_nil
  | cons line rest ih =>
    rw [List.forall_mem_cons] at h
    rw [ofLines_cons]
    exact h.1.append_of_head (isOpen_cons.2 ⟨by simp, ih h.2⟩) (by simp)

theorem isOpen_nameLine (name : Text) : IsOpen (" * " ++ defuse name ++ "()") := by
  have hname : IsOpen (" * " ++ defuse name) :=
    IsOpen.append_of_last (by decide) (isOpen_defuse name) (by decide)
  exact hname.append_of_head (by decide) (by decide)

/-! ## The block -/

/-- The comment block up to its closing mark. -/
def openPart (name description : Text) (width : Int) : Text :=
  ofLines ((["/*", " * " ++ defuse name ++ "()", " *"] : List Text) ++
    paragraphLines width (defuse description)) ++ " "

theorem isOpen_openPart (name description : Text) (width : Int) :
    IsOpen (openPart name description width) := by
  have hlines : ∀ line ∈ (["/*", " * " ++ defuse name ++ "()", " *"] : List Text) ++
      paragraphLines width (defuse description), IsOpen line := by
    refine List.forall_mem_append.2 ⟨?_, fun line => ?_⟩
    · simp only [List.forall_mem_cons]
      exact ⟨by decide, isOpen_nameLine name, by decide, by simp⟩
    · exact isOpen_of_mem_paragraphLines (isOpen_defuse description)
  exact (isOpen_ofLines hlines).append_of_head (by decide) (by decide)

theorem block_eq_openPart (name description : Text) (width : Int) :
    block name description width =
      openPart name description width ++ ⟨0x2A⟩ :: ⟨0x2F⟩ :: Text.ofString "\n\n" := by
  have hclose : ofLines ([" */", ""] : List Text) =
      Text.ofString " " ++ ⟨0x2A⟩ :: ⟨0x2F⟩ :: Text.ofString "\n\n" := rfl
  rw [block_eq_ofLines, blockLines, ofLines_append, hclose, openPart, List.append_assoc (ofLines _)]

/-- In lines with room behind the margin, the comment above a function opens with its opening mark,
and the closing mark stands in it at one place, before the two line feeds that end it. -/
theorem block_closesAtEnd (name description : Text) (width : Int) (h : 4 ≤ width) :
    ∃ t before, block? name description width = .ok t ∧ "/*" <+: t ∧
      ∀ p s, t = p ++ "*/" ++ s ↔ p = before ∧ s = "\n\n" := by
  have hmark (p s : Text) : p ++ "*/" ++ s = p ++ ⟨0x2A⟩ :: ⟨0x2F⟩ :: s := by
    rw [List.append_assoc]
    rfl
  refine ⟨block name description width, openPart name description width, if_neg (by omega),
    ⟨_, rfl⟩, fun p s => ?_⟩
  rw [block_eq_openPart, hmark]
  constructor
  · intro hsame
    exact closing_unique (isOpen_openPart name description width) (by decide) hsame.symm
  · rintro ⟨rfl, rfl⟩
    rfl

/-- The marks of the comment in the name and the description, a tab between a star and a slash, and
no room for a word. -/
theorem block_closesAtEnd_narrow :
    (4 : Int) ≤ 4 ∧ ∃ t before, block? "f*/" "a*\t/b **/ c" 4 = .ok t ∧ "/*" <+: t ∧
      ∀ p s, t = p ++ "*/" ++ s ↔ p = before ∧ s = "\n\n" :=
  ⟨by decide, block_closesAtEnd "f*/" "a*\t/b **/ c" 4 (by decide)⟩

end Comment

end Nomenclator

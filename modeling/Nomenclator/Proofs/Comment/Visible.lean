import Nomenclator.Proofs.Comment.Lines

/-!
# What a filled paragraph keeps

Filling drops and adds blanks only. In lines with room for a character each of them keeps to the
width, and read without margins and blanks they are the text without its blanks.
-/

namespace Nomenclator

namespace Text

/-- A text without its blanks. -/
def visible (t : Text) : Text := t.filter fun r => !r.isBlank

theorem visible_append (s t : Text) : visible (s ++ t) = visible s ++ visible t :=
  List.filter_append ..

theorem visible_eq_nil_iff {t : Text} : visible t = [] ↔ isBlank t = true := by
  simp [visible, isBlank]

theorem visible_flatten (pieces : List Text) :
    visible pieces.flatten = pieces.flatMap visible := by
  rw [visible, List.filter_flatten, List.flatMap]
  rfl

theorem visible_blanks (n : Nat) : visible (blanks n) = [] := by
  rw [visible_eq_nil_iff, isBlank, List.all_eq_true]
  intro r hr
  rw [List.eq_of_mem_replicate hr]
  decide

theorem visible_cons_of_isBlank {r : Rune} (h : r.isBlank = true) (t : Text) :
    visible (r :: t) = visible t :=
  List.filter_cons_of_neg (by simp [h])

theorem visible_cons (r : Rune) (t : Text) : visible (r :: t) = visible [r] ++ visible t :=
  visible_append [r] t

theorem visible_expandTabsFrom (width column : Nat) (t : Text) :
    visible (expandTabsFrom width column t) = visible t := by
  fun_induction expandTabsFrom width column t with
  | case1 => rfl
  | case2 column r rest htab step ih =>
    have hblank : r.isBlank = true := by
      obtain ⟨code⟩ := r
      obtain rfl : code = 0x09 := htab
      decide
    rw [visible_append, visible_blanks, ih, visible_cons_of_isBlank hblank]
    rfl
  | case3 column r rest htab hbreak ih => rw [visible_cons, ih, ← visible_cons]
  | case4 column r rest htab hbreak ih => rw [visible_cons, ih, ← visible_cons]

theorem visible_replaceAll {old new : Text} (h : visible new = visible old) (t : Text) :
    visible (replaceAll t old new) = visible t := by
  fun_induction replaceAll t old new with
  | case1 => rfl
  | case2 r rest hold ih =>
    obtain ⟨hsome, hprefix⟩ := hold
    obtain ⟨more, hmore⟩ := List.isPrefixOf_iff_prefix.1 hprefix
    obtain ⟨first, others, rfl⟩ := List.exists_cons_of_ne_nil hsome
    have hrest : rest.drop ((first :: others).length - 1) = more := by
      rw [List.cons_append] at hmore
      injection hmore with _ hmore
      rw [← hmore]
      simp
    rw [visible_append, ih, hrest, h, ← visible_append, hmore]
  | case3 r rest hold ih => rw [visible_cons, ih, ← visible_cons]

end Text

open Text

theorem Chunk.visible_unifySpaces (t : Text) : visible (unifySpaces t) = visible t := by
  have hspace : ∀ s : Text,
      visible (s.map fun r => if r.within 0x09 0x0D then ⟨0x20⟩ else r) = visible s := by
    intro s
    induction s with
    | nil => rfl
    | cons r rest ih =>
      rw [List.map_cons]
      split
      · next hwithin =>
        rw [visible_cons_of_isBlank (by decide), ih,
          visible_cons_of_isBlank (by simp [Rune.isBlank, hwithin])]
      · rw [visible_cons, ih, ← visible_cons]
  rw [unifySpaces, hspace]
  exact visible_expandTabsFrom 8 0 t

namespace Fill

/-! ## Cuts -/

theorem lastHyphen?_lt {t : Text} {i : Nat} (h : lastHyphen? t = some i) : i < t.length := by
  unfold lastHyphen? at h
  dsimp only at h
  split at h
  · injection h with h
    omega
  · simp at h

theorem cutPoint_le (chunk : Text) (room : Nat) : cutPoint chunk room ≤ room := by
  unfold cutPoint
  split
  · next i hhyphen =>
    have hi := lastHyphen?_lt hhyphen
    rw [List.length_take] at hi
    split
    · omega
    · exact le_rfl
  · exact le_rfl

theorem cutPoint_pos (chunk : Text) {room : Nat} (h : 0 < room) : 0 < cutPoint chunk room := by
  unfold cutPoint
  split
  · split
    · exact Nat.succ_pos _
    · exact h
  · exact h

/-! ## One line -/

theorem length_takeFitting {room : Int} (h : 0 ≤ room) (chunks : List Text) :
    ((takeFitting room chunks).1.flatten.length : Int) ≤ room := by
  fun_induction takeFitting room chunks with
  | case1 => simpa using h
  | case2 room chunk rest hfits line others hrest ih =>
    rw [hrest] at ih
    have hline : (line.flatten.length : Int) ≤ room - chunk.length := ih (by omega)
    rw [List.flatten_cons, List.length_append]
    omega
  | case3 => simpa using h

theorem head_of_takeFitting {room : Int} {chunks rest : List Text} {chunk : Text}
    (h : takeFitting room chunks = ([], chunk :: rest)) : room < chunk.length := by
  cases chunks with
  | nil => simp [takeFitting] at h
  | cons first others =>
    unfold takeFitting at h
    split at h
    · simp at h
    · next hwide =>
      obtain ⟨rfl, -⟩ := List.cons.inj (Prod.mk.inj h).2
      omega

theorem weight_cons (chunk : Text) (rest : List Text) :
    weight (chunk :: rest) = chunk.length + 1 + weight rest := by
  rw [weight, weight, List.flatten_cons, List.length_append, List.length_cons]
  omega

theorem weight_append (line rest : List Text) :
    weight (line ++ rest) = weight line + weight rest := by
  rw [weight, weight, weight, List.flatten_append, List.length_append, List.length_append]
  omega

theorem weight_pos {line : List Text} (h : line ≠ []) : 0 < weight line := by
  have hlength := List.length_pos_iff.2 h
  rw [weight]
  omega

theorem cutLine_spec {width : Int} (hwidth : 1 ≤ width) {line rest : List Text} {chunk : Text}
    (hline : (line.flatten.length : Int) ≤ width) (hwide : width < chunk.length) {n : Nat}
    (hn : n = cutPoint chunk (width - line.flatten.length).toNat) :
    ((line ++ [chunk.take n]).flatten.length : Int) ≤ width ∧
      weight (chunk.drop n :: rest) < weight (line ++ chunk :: rest) := by
  have hcut := cutPoint_le chunk (width - line.flatten.length).toNat
  rw [← hn] at hcut
  constructor
  · rw [List.flatten_append, List.flatten_singleton, List.length_append, List.length_take]
    omega
  · rw [weight_append, weight_cons, weight_cons, List.length_drop]
    by_cases hnone : line = []
    · -- then the cut takes a character at least
      have hroom : 0 < (width - line.flatten.length).toNat := by
        rw [hnone, List.flatten_nil, List.length_nil]
        omega
      have hpos := cutPoint_pos chunk hroom
      omega
    · have hpos := weight_pos hnone
      omega

theorem takeLine_spec {width : Int} (hwidth : 1 ≤ width) {chunks : List Text} (h : chunks ≠ []) :
    ((takeLine width chunks).1.flatten.length : Int) ≤ width ∧
      weight (takeLine width chunks).2 < weight chunks := by
  have happend := takeFitting_append width chunks
  have hlength := length_takeFitting (show 0 ≤ width by omega) chunks
  unfold takeLine
  split
  · next line chunk rest htake =>
    rw [htake] at happend hlength
    dsimp only at happend hlength
    rw [← happend]
    split
    · next hwide =>
      rw [if_neg (by omega)]
      exact cutLine_spec hwidth hlength hwide rfl
    · next hfits =>
      refine ⟨hlength, ?_⟩
      have hline : line ≠ [] := by
        rintro rfl
        exact hfits (head_of_takeFitting htake)
      rw [weight_append]
      exact Nat.lt_add_of_pos_left (weight_pos hline)
  · next hwhole =>
    refine ⟨hlength, ?_⟩
    cases hleft : (takeFitting width chunks).2 with
    | nil => exact weight_pos h
    | cons chunk rest => exact (hwhole _ chunk rest (Prod.ext rfl hleft)).elim

/-! ## Dropped blanks -/

theorem visible_of_isBlank {chunks : List Text} (h : ∀ chunk ∈ chunks, Text.isBlank chunk = true) :
    visible chunks.flatten = [] := by
  rw [visible_flatten, List.flatMap_eq_nil_iff]
  exact fun chunk hchunk => visible_eq_nil_iff.2 (h chunk hchunk)

theorem exists_dropBlankHead (chunks : List Text) :
    ∃ blank, chunks = blank ++ dropBlankHead chunks ∧
      ∀ chunk ∈ blank, Text.isBlank chunk = true := by
  unfold dropBlankHead
  split
  · next chunk rest =>
    split
    · next hblank => exact ⟨[chunk], rfl, by simpa using hblank⟩
    · exact ⟨[], rfl, by simp⟩
  · exact ⟨[], rfl, by simp⟩

theorem visible_dropBlankHead (chunks : List Text) :
    visible (dropBlankHead chunks).flatten = visible chunks.flatten := by
  obtain ⟨blank, hsplit, hblank⟩ := exists_dropBlankHead chunks
  calc visible (dropBlankHead chunks).flatten
      = visible blank.flatten ++ visible (dropBlankHead chunks).flatten := by
        rw [visible_of_isBlank hblank, List.nil_append]
    _ = visible chunks.flatten := by rw [← visible_append, ← List.flatten_append, ← hsplit]

theorem visible_dropBlankLast (chunks : List Text) :
    visible (dropBlankLast chunks).flatten = visible chunks.flatten := by
  obtain ⟨blank, hsplit, hblank⟩ := exists_dropBlankHead chunks.reverse
  have hchunks : chunks = dropBlankLast chunks ++ blank.reverse := by
    rw [dropBlankLast, ← List.reverse_append, ← hsplit, List.reverse_reverse]
  have hnone : visible blank.reverse.flatten = [] := visible_of_isBlank (by simpa using hblank)
  calc visible (dropBlankLast chunks).flatten
      = visible (dropBlankLast chunks).flatten ++ visible blank.reverse.flatten := by
        rw [hnone, List.append_nil]
    _ = visible chunks.flatten := by rw [← visible_append, ← List.flatten_append, ← hchunks]

theorem weight_dropBlankHead_le (chunks : List Text) :
    weight (dropBlankHead chunks) ≤ weight chunks := by
  obtain ⟨blank, hsplit, -⟩ := exists_dropBlankHead chunks
  have hweight := congrArg weight hsplit
  rw [weight_append] at hweight
  omega

/-! ## All lines -/

theorem lines_step {width : Int} (hwidth : 1 ≤ width) {started : Bool}
    {chunks line left : List Text} (h : chunks ≠ [])
    (htake : takeLine width (if started then dropBlankHead chunks else chunks) = (line, left)) :
    ((dropBlankLast line).flatten.length : Int) ≤ width ∧ weight left < weight chunks ∧
      visible (dropBlankLast line).flatten ++ visible left.flatten = visible chunks.flatten := by
  have hvisible : visible (if started then dropBlankHead chunks else chunks).flatten =
      visible chunks.flatten := by
    split
    · exact visible_dropBlankHead chunks
    · rfl
  have hweight : weight (if started then dropBlankHead chunks else chunks) ≤ weight chunks := by
    split
    · exact weight_dropBlankHead_le chunks
    · exact le_rfl
  generalize (if started then dropBlankHead chunks else chunks) = trimmed at htake hvisible hweight
  have hflatten := takeLine_flatten width trimmed
  rw [htake] at hflatten
  dsimp only at hflatten
  have hlast := (isPrefix_dropBlankLast line).flatten.length_le
  rw [visible_dropBlankLast, ← visible_append, hflatten, hvisible]
  by_cases hnone : trimmed = []
  · -- blanks were all that was left
    subst hnone
    obtain ⟨rfl, rfl⟩ := Prod.mk.inj htake
    have hwide : (0 : Int) ≤ width := by omega
    exact ⟨hwide, weight_pos h, rfl⟩
  · have hstep := takeLine_spec hwidth hnone
    rw [htake] at hstep
    dsimp only at hstep
    exact ⟨by omega, by omega, rfl⟩

theorem lines_spec {width : Int} (hwidth : 1 ≤ width) (started : Bool) (chunks : List Text) :
    (∀ line ∈ lines width started chunks, (line.length : Int) ≤ width) ∧
      visible (lines width started chunks).flatten = visible chunks.flatten := by
  fun_induction lines width started chunks with
  | case1 => simp
  | case2 started chunk rest trimmed line left htake line' hless hempty =>
    rename_i ih
    obtain ⟨-, -, hvisible⟩ := lines_step hwidth (List.cons_ne_nil chunk rest) htake
    rw [show dropBlankLast line = [] from List.isEmpty_iff.1 hempty] at hvisible
    exact ⟨ih.1, ih.2.trans hvisible⟩
  | case3 started chunk rest trimmed line left htake line' hless hsome =>
    rename_i ih
    obtain ⟨hlength, -, hvisible⟩ := lines_step hwidth (List.cons_ne_nil chunk rest) htake
    refine ⟨List.forall_mem_cons.2 ⟨hlength, ih.1⟩, ?_⟩
    rw [List.flatten_cons, visible_append, ih.2]
    exact hvisible
  | case4 started chunk rest trimmed line left htake line' hstuck =>
    exact absurd (lines_step hwidth (List.cons_ne_nil chunk rest) htake).2.1 hstuck
  | case5 started chunk rest trimmed line left htake line' hstuck =>
    exact absurd (lines_step hwidth (List.cons_ne_nil chunk rest) htake).2.1 hstuck

end Fill

namespace Comment

/-! ## The description in a comment -/

theorem lines_paragraph (width : Int) (t : Text) :
    Text.lines (Fill.paragraph width " * " t) = paragraphLines width t := by
  have hmargin : ((" * " : Text).length : Int) = 3 := by decide
  have hfeed : ∀ line ∈ paragraphLines width t, ∀ r ∈ line, r.code ≠ 0x0A :=
    forall_mem_paragraphLines (by decide) fun _ _ => ne_lineFeed_of_within
  unfold paragraphLines at hfeed ⊢
  rw [Fill.paragraph, hmargin]
  split
  · next hnone => rw [hnone]; rfl
  · next lines hsome =>
    split at hfeed
    · next hnone => exact absurd hnone hsome
    · exact Text.lines_join hsome hfeed

theorem visible_lines_description {width : Int} (hwidth : 4 ≤ width) (t : Text) :
    visible (Fill.lines (width - 3) false (Chunk.ofText t)).flatten = visible t := by
  rw [(Fill.lines_spec (by omega) false _).2, Chunk.ofText, Chunk.flatten_split,
    Chunk.visible_unifySpaces]

theorem paragraphLines_of_not_blank {width : Int} {t : Text} (hwidth : 4 ≤ width)
    (hsome : Text.isBlank t = false) :
    paragraphLines width t =
      (Fill.lines (width - 3) false (Chunk.ofText t)).map ((" * " : Text) ++ ·) := by
  unfold paragraphLines
  split
  · next hnone =>
    have hvisible := visible_lines_description hwidth t
    rw [List.map_eq_nil_iff.1 hnone] at hvisible
    rw [visible_eq_nil_iff.1 hvisible.symm] at hsome
    exact Bool.noConfusion hsome
  · rfl

theorem isBlank_defuse (t : Text) : Text.isBlank (defuse t) = Text.isBlank t := by
  have hvisible : visible (defuse t) = visible t := visible_replaceAll (by decide) t
  rw [Bool.eq_iff_iff, ← visible_eq_nil_iff, ← visible_eq_nil_iff, hvisible]

/-- In lines with room behind the margin, a description that is not blank stands in the comment in
lines of that width behind their margins, with every character but blanks, in order. -/
theorem block_keepsDescription (name description : Text) (width : Int) (hwidth : 4 ≤ width)
    (hsome : Text.isBlank description = false) :
    ∃ body, block? name description width =
        .ok ("/*\n * " ++ defuse name ++ "()\n *\n" ++ body ++ "\n */\n\n") ∧
      (∀ line ∈ Text.lines body, (" * " : Text) <+: line ∧ (line.length : Int) ≤ width) ∧
      visible ((Text.lines body).flatMap (List.drop 3)) = visible (defuse description) := by
  refine ⟨Fill.paragraph width " * " (defuse description), ?_, ?_⟩
  · rw [block?, if_neg (by omega), block, Text.concat]
    simp
  · rw [lines_paragraph, paragraphLines_of_not_blank hwidth (by rwa [isBlank_defuse])]
    constructor
    · rw [List.forall_mem_map]
      intro line hline
      have hmargin : (" * " : Text).length = 3 := by decide
      have hlength := (Fill.lines_spec (by omega) false _).1 line hline
      refine ⟨List.prefix_append _ _, ?_⟩
      rw [List.length_append, hmargin]
      omega
    · have hdrop (line : Text) : List.drop 3 ((" * " : Text) ++ line) = line := rfl
      rw [List.flatMap_map]
      simp only [hdrop]
      rw [List.flatMap_id', visible_lines_description hwidth]

/-- A word that is cut and one that is broken behind its hyphen, with a tab and a mark of the
comment between them. -/
theorem block_keepsDescription_narrow :
    (4 : Int) ≤ 9 ∧ Text.isBlank "reallocates\t*/ re-entry " = false ∧
      ∃ body, block? "f" "reallocates\t*/ re-entry " 9 =
          .ok ("/*\n * " ++ defuse "f" ++ "()\n *\n" ++ body ++ "\n */\n\n") ∧
        (∀ line ∈ Text.lines body, (" * " : Text) <+: line ∧ (line.length : Int) ≤ 9) ∧
        visible ((Text.lines body).flatMap (List.drop 3)) =
          visible (defuse "reallocates\t*/ re-entry ") :=
  ⟨by decide, by decide, block_keepsDescription "f" _ 9 (by decide) (by decide)⟩

end Comment

end Nomenclator

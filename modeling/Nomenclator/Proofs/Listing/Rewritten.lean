import Mathlib.Data.List.Forall2
import Nomenclator.Proofs.Listing.Renamed

/-!
# Listings written again

A listing is written block by block: the address on a line of its own, a heading, and the body under
new names. Splitting what was written gives the separators that the listing had.
-/

namespace Nomenclator.Listing

/-! ## Separators of a text -/

def separators (text : Text) : List Text := (blocks text).map Block.separator

/-- The separator of a piece, unless nothing stands below it. -/
def named? (piece : Text × Text) : Option Text :=
  if Text.isBlank piece.2 then none
  else some (Text.dropEndWhile (fun r => r.code == 0x0D) piece.1)

theorem isBlank_of_isLineBreak {r : Rune} (h : isLineBreak r = true) : r.isBlank = true := by
  obtain ⟨code⟩ := r
  simp only [isLineBreak, Bool.or_eq_true, beq_iff_eq] at h
  rcases h with rfl | rfl <;> decide

theorem block?_eq (piece : Text × Text) :
    block? piece = if Text.isBlank piece.2 then none
      else some ⟨Text.dropEndWhile (fun r => r.code == 0x0D) piece.1,
        Text.trim isLineBreak piece.2 ++ [⟨0x0A⟩]⟩ := by
  have hblank : Text.isBlank (Text.trim isLineBreak piece.2) = Text.isBlank piece.2 :=
    Text.all_trim (fun r => isBlank_of_isLineBreak) piece.2
  unfold block?
  dsimp only
  rw [hblank]

theorem map_separator_block? (piece : Text × Text) :
    (block? piece).map Block.separator = named? piece := by
  rw [block?_eq, named?]
  split <;> rfl

theorem blocks_of_pieces {text : Text} (hpieces : (cut true text).2 ≠ []) :
    blocks text = (cut true text).2.filterMap block? := by
  unfold blocks
  split
  · next hnone => exact absurd hnone hpieces
  · rfl

theorem blocks_of_nil {text : Text} (hnone : (cut true text).2 = []) :
    blocks text = if Text.isBlank text then [] else [⟨[], text⟩] := by
  unfold blocks
  rw [hnone]

theorem separators_of_pieces {text : Text} (h : (cut true text).2 ≠ []) :
    separators text = (cut true text).2.filterMap named? := by
  rw [separators, blocks_of_pieces h, List.map_filterMap]
  exact List.filterMap_congr fun piece _ => map_separator_block? piece

theorem separators_of_nil {text : Text} (h : (cut true text).2 = [])
    (hsome : Text.isBlank text = false) : separators text = [[]] := by
  rw [separators, blocks_of_nil h, hsome]
  rfl

theorem separators_nil : separators [] = [] := by
  rw [separators, blocks_of_nil (congrArg Prod.snd (cut_nil true))]
  rfl

/-! ## Headings -/

/-- Lines that start with a slash and hold no address. -/
def IsHeading (t : Text) : Prop :=
  ∃ first rest, t = ofLines ((⟨0x2F⟩ :: first) :: rest) ∧
    ∀ line ∈ (⟨0x2F⟩ :: first) :: rest, IsPlainLine line

variable {heading : Text}

theorem IsHeading.eq_cons (h : IsHeading heading) (t : Text) :
    ∃ v, heading ++ t = ⟨0x2F⟩ :: v := by
  obtain ⟨first, rest, rfl, -⟩ := h
  exact ⟨_, rfl⟩

theorem IsHeading.cut (h : IsHeading heading) (t : Text) :
    (Listing.cut true (heading ++ t)).2 = (Listing.cut true t).2 := by
  obtain ⟨first, rest, rfl, hlines⟩ := h
  rw [cut_lines hlines]

/-! ## Blocks written again -/

/-- What is written for a block. -/
def IsRewritten (block : Block) (t : Text) : Prop :=
  ∃ heading renames,
    t = (if block.separator.isEmpty then [] else block.separator ++ [⟨0x0A⟩]) ++ heading ++
      renameRuns renames block.body ∧
    IsHeading heading ∧ AreIdentifiers renames ∧ KeepsAddresses renames block.body

theorem separators_rewritten_whole {text t : Text} (hreturn : ∀ r ∈ text, r.code ≠ 0x0D)
    (hsome : Text.isBlank text = false) (h : IsRewritten ⟨[], text⟩ t) :
    separators t = separators text := by
  obtain ⟨heading, renames, rfl, hheading, hnames, hkeeps⟩ := h
  show separators (heading ++ renameRuns renames text) = separators text
  have hpieces : (cut true (heading ++ renameRuns renames text)).2 =
      (cut true text).2.map fun piece => (piece.1, renameRuns renames piece.2) := by
    rw [hheading.cut, cut_renameRuns hnames true text hreturn hkeeps]
  by_cases hnone : (cut true text).2 = []
  · rw [hnone, List.map_nil] at hpieces
    obtain ⟨v, hv⟩ := hheading.eq_cons (renameRuns renames text)
    rw [separators_of_nil hnone hsome, separators_of_nil hpieces (by rw [hv]; rfl)]
  · have hmore : (cut true (heading ++ renameRuns renames text)).2 ≠ [] := by
      rw [hpieces]
      simpa using hnone
    rw [separators_of_pieces hnone, separators_of_pieces hmore, hpieces, List.filterMap_map]
    refine List.filterMap_congr fun piece _ => ?_
    simp only [named?, Function.comp_apply, isBlank_renameRuns hnames]

/-- An address on a line of its own, and below it a text that starts with a slash and holds no
separator. -/
def IsChunk (a t : Text) : Prop :=
  ∃ v, t = a ++ ⟨0x0A⟩ :: ⟨0x2F⟩ :: v ∧ IsAddress a ∧ (cut true (⟨0x2F⟩ :: v)).2 = []

theorem isChunk_of_isRewritten {block : Block} {t : Text} (haddress : IsAddress block.separator)
    (hclear : (cut true block.body).2 = []) (hreturn : ∀ r ∈ block.body, r.code ≠ 0x0D)
    (h : IsRewritten block t) : IsChunk block.separator t := by
  obtain ⟨heading, renames, rfl, hheading, hnames, hkeeps⟩ := h
  obtain ⟨v, hv⟩ := hheading.eq_cons (renameRuns renames block.body)
  have hsome : block.separator.isEmpty = false := by
    obtain ⟨digits, tail, hplaced, -⟩ := haddress
    obtain ⟨w, hw⟩ := hplaced.slashes
    rw [← hw]
    rfl
  refine ⟨v, ?_, haddress, ?_⟩
  · rw [hsome, List.append_assoc, hv]
    simp
  · rw [← hv, hheading.cut, cut_renameRuns hnames true block.body hreturn hkeeps, hclear]
    rfl

/-- A separator that is found above a text without separators, whatever line follows the two. -/
structure Stands (piece : Text × Text) : Prop where
  found : ∀ w, Follows w → separator? (piece.1 ++ (piece.2 ++ w)) = some piece.1
  clear : (cut false piece.2).2 = []

theorem Stands.eq_cons {piece : Text × Text} (h : Stands piece) (t : Text) :
    ∃ v, piece.1 ++ (piece.2 ++ t) = ⟨0x2F⟩ :: v := by
  obtain ⟨rest, hsplit, -⟩ := separator?_eq_some_iff.1 (h.found [] follows_nil)
  obtain ⟨v, hv⟩ := slashes_of_separator? (h.found [] follows_nil)
  rw [List.append_nil] at hv
  exact ⟨⟨0x2F⟩ :: v ++ t, by rw [← List.append_assoc, ← hv]; rfl⟩

def unsplit (pieces : List (Text × Text)) : Text :=
  Text.join [⟨0x0A⟩] (pieces.map fun piece => piece.1 ++ piece.2)

theorem unsplit_eq_cons {piece : Text × Text} (h : Stands piece) (pieces : List (Text × Text)) :
    ∃ v, unsplit (piece :: pieces) = ⟨0x2F⟩ :: v := by
  by_cases hpieces : pieces = []
  · subst hpieces
    simpa [unsplit, Text.join] using h.eq_cons []
  · rw [unsplit, List.map_cons, Text.join_cons _ _ (by simpa using hpieces), List.append_assoc,
      List.append_assoc]
    exact h.eq_cons _

/-- The same pieces, but for line feeds below them. -/
def SameButFeeds (piece piece' : Text × Text) : Prop :=
  piece'.1 = piece.1 ∧ ∃ feeds, piece'.2 = piece.2 ++ feeds ∧ ∀ r ∈ feeds, r.code = 0x0A

theorem cut_unsplit {pieces : List (Text × Text)} (h : ∀ piece ∈ pieces, Stands piece) :
    ∃ pieces', cut true (unsplit pieces) = ([], pieces') ∧
      List.Forall₂ SameButFeeds pieces pieces' := by
  induction pieces with
  | nil => exact ⟨[], cut_nil true, .nil⟩
  | cons piece pieces ih =>
    obtain ⟨hpiece, hmore⟩ := List.forall_mem_cons.1 h
    obtain ⟨pieces', hcut, hsame⟩ := ih hmore
    -- what follows the piece
    obtain ⟨w, hjoin, hfollows, hw, hfeeds⟩ : ∃ w,
        unsplit (piece :: pieces) = piece.1 ++ (piece.2 ++ w) ∧ Follows w ∧
          (∀ b, (cut b w).2 = pieces') ∧ ∀ b, ∀ r ∈ (cut b w).1, r.code = 0x0A := by
      cases pieces with
      | nil =>
        refine ⟨[], by simp [unsplit, Text.join], follows_nil, fun b => ?_, fun b => ?_⟩
        · rw [cut_nil]
          exact (congrArg Prod.snd (cut_nil true)).symm.trans (congrArg Prod.snd hcut)
        · simp [cut_nil]
      | cons next pieces =>
        refine ⟨⟨0x0A⟩ :: unsplit (next :: pieces), ?_, ?_, fun b => ?_, fun b => ?_⟩
        · rw [unsplit, List.map_cons, Text.join_cons _ _ (by simp)]
          simp [unsplit]
        · obtain ⟨v, hv⟩ := unsplit_eq_cons (hmore next List.mem_cons_self) pieces
          rw [hv]
          exact follows_lineFeed (by simp)
        · rw [cut_lineFeed, hcut]
        · rw [cut_lineFeed, hcut]
          simp
    rw [hjoin, cut_separator (hpiece.found w hfollows), cut_append hfollows hpiece.clear, hw]
    exact ⟨_, rfl, .cons ⟨rfl, _, rfl, hfeeds _⟩ hsame⟩

theorem exists_pieces_of_chunks {addresses chunks : List Text}
    (h : List.Forall₂ IsChunk addresses chunks) :
    ∃ pieces : List (Text × Text), pieces.map Prod.fst = addresses ∧
      Text.join [⟨0x0A⟩] chunks = unsplit pieces ∧
        ∀ piece ∈ pieces, Stands piece ∧ Text.isBlank piece.2 = false := by
  suffices hpieces : ∃ pieces : List (Text × Text), pieces.map Prod.fst = addresses ∧
      (pieces.map fun piece => piece.1 ++ piece.2) = chunks ∧
        ∀ piece ∈ pieces, Stands piece ∧ Text.isBlank piece.2 = false by
    obtain ⟨pieces, hnames, rfl, hstands⟩ := hpieces
    exact ⟨pieces, hnames, rfl, hstands⟩
  induction h with
  | nil => exact ⟨[], rfl, rfl, by simp⟩
  | cons ht hrest ih =>
    obtain ⟨v, rfl, haddress, hclear⟩ := ht
    obtain ⟨pieces, rfl, rfl, hstands⟩ := ih
    refine ⟨(_, ⟨0x0A⟩ :: ⟨0x2F⟩ :: v) :: pieces, rfl, rfl, ?_⟩
    refine List.forall_mem_cons.2 ⟨⟨⟨fun w _ => ?_, by rw [cut_lineFeed, hclear]⟩, rfl⟩, hstands⟩
    exact separator?_address haddress (v ++ w)

theorem SameButFeeds.isBlank {piece piece' : Text × Text} (h : SameButFeeds piece piece')
    (hsome : Text.isBlank piece.2 = false) : Text.isBlank piece'.2 = false := by
  obtain ⟨-, feeds, hbelow, -⟩ := h
  rw [hbelow, Text.isBlank, List.all_append, Bool.and_eq_false_iff]
  exact .inl hsome

/-- Chunks with a line feed between each two are cut at their addresses. -/
theorem cut_join {addresses chunks : List Text} (h : List.Forall₂ IsChunk addresses chunks) :
    ∃ pieces, cut true (Text.join [⟨0x0A⟩] chunks) = ([], pieces) ∧
      pieces.map Prod.fst = addresses ∧ ∀ piece ∈ pieces, Text.isBlank piece.2 = false := by
  obtain ⟨pieces, rfl, hjoin, hpieces⟩ := exists_pieces_of_chunks h
  obtain ⟨pieces', hcut, hsame⟩ := cut_unsplit fun piece hpiece => (hpieces piece hpiece).1
  refine ⟨pieces', hjoin ▸ hcut, ?_⟩
  clear h hjoin hcut
  induction hsame with
  | nil => simp
  | cons hfirst hrest ih =>
    obtain ⟨⟨-, hblank⟩, hmore⟩ := List.forall_mem_cons.1 hpieces
    obtain ⟨hnames, hblanks⟩ := ih hmore
    rw [List.map_cons, List.map_cons, hfirst.1, hnames]
    exact ⟨rfl, List.forall_mem_cons.2 ⟨hfirst.isBlank hblank, hblanks⟩⟩

theorem named?_of_isPiece {piece : Text × Text} (hreturn : ∀ r ∈ piece.1, r.code ≠ 0x0D)
    (hsome : Text.isBlank piece.2 = false) : named? piece = some piece.1 := by
  have hend : Text.dropEndWhile (fun r => r.code == 0x0D) piece.1 = piece.1 :=
    Text.dropEndWhile_of_not fun r hr => by simpa using hreturn r hr
  rw [named?, hsome, hend]
  rfl

theorem block?_eq_some {piece : Text × Text} {block : Block} (h : block? piece = some block) :
    block.separator = Text.dropEndWhile (fun r => r.code == 0x0D) piece.1 ∧
      block.body = Text.trim isLineBreak piece.2 ++ [⟨0x0A⟩] := by
  rw [block?_eq] at h
  split at h
  · simp at h
  · injection h with h
    subst h
    exact ⟨rfl, rfl⟩

theorem forall_mem_blocks {p : Rune → Prop} {text : Text} (hfeed : p ⟨0x0A⟩)
    (htext : ∀ r ∈ text, p r) :
    ∀ block ∈ blocks text, (∀ r ∈ block.separator, p r) ∧ ∀ r ∈ block.body, p r := by
  intro block hblock
  by_cases hpieces : (cut true text).2 = []
  · rw [blocks_of_nil hpieces] at hblock
    split at hblock
    · simp at hblock
    · obtain rfl := List.mem_singleton.1 hblock
      exact ⟨by simp, htext⟩
  · rw [blocks_of_pieces hpieces, List.mem_filterMap] at hblock
    obtain ⟨piece, hmem, hsome⟩ := hblock
    obtain ⟨hseparator, hbody⟩ := block?_eq_some hsome
    have hsubset := List.append_subset.1 (subset_of_mem_cut hmem)
    rw [hseparator, hbody]
    refine ⟨fun r hr => htext r (hsubset.1 ((Text.isPrefix_dropEndWhile _ _).subset hr)), ?_⟩
    simp only [List.forall_mem_append, List.forall_mem_singleton]
    exact ⟨fun r hr => htext r (hsubset.2 (Text.trim_subset _ _ hr)), hfeed⟩

theorem clear_of_mem_blocks {text : Text} (hreturn : ∀ r ∈ text, r.code ≠ 0x0D)
    (hpieces : (cut true text).2 ≠ []) {block : Block} (hblock : block ∈ blocks text) :
    IsAddress block.separator ∧ (cut true block.body).2 = [] := by
  rw [blocks_of_pieces hpieces, List.mem_filterMap] at hblock
  obtain ⟨piece, hmem, hsome⟩ := hblock
  obtain ⟨hseparator, hbody⟩ := block?_eq_some hsome
  have hpiece := isPiece_of_mem_cut hreturn piece hmem
  have hsubset := List.append_subset.1 (subset_of_mem_cut hmem)
  rw [hseparator, hbody, Text.dropEndWhile_of_not fun r hr => by
    simpa using hreturn r (hsubset.1 hr)]
  exact ⟨hpiece.address, hpiece.trim_clear fun r hr => hreturn r (hsubset.2 hr)⟩

/-- A text with separators whose blocks are written again keeps the separators. -/
theorem separators_rewritten_blocks {text : Text} {chunks : List Text}
    (hreturn : ∀ r ∈ text, r.code ≠ 0x0D) (hpieces : (cut true text).2 ≠ [])
    (h : List.Forall₂ IsRewritten (blocks text) chunks) :
    separators (Text.join [⟨0x0A⟩] chunks) = separators text := by
  have hchunks : List.Forall₂ IsChunk (separators text) chunks := by
    unfold separators
    rw [List.forall₂_map_left_iff]
    have hmem := (List.forall₂_and_left _ _).2 ⟨fun _ hblock => hblock, h⟩
    refine hmem.imp fun block t hblock => ?_
    obtain ⟨haddress, hclear⟩ := clear_of_mem_blocks hreturn hpieces hblock.1
    have hbody := (forall_mem_blocks (by decide) hreturn block hblock.1).2
    exact isChunk_of_isRewritten haddress hclear hbody hblock.2
  obtain ⟨pieces, hcut, hnames, hblank⟩ := cut_join hchunks
  have hnamed : ∀ piece ∈ pieces, named? piece = some piece.1 := by
    intro piece hpiece
    refine named?_of_isPiece ?_ (hblank piece hpiece)
    have hseparator : piece.1 ∈ separators text := by
      rw [← hnames]
      exact List.mem_map_of_mem hpiece
    obtain ⟨block, hblock, heq⟩ := List.mem_map.1 hseparator
    rw [← heq]
    exact (forall_mem_blocks (by decide) hreturn block hblock).1
  by_cases hnone : pieces = []
  · -- without separators there are no chunks
    subst hnone
    have hempty : chunks = [] := by
      rw [← hnames] at hchunks
      cases hchunks
      rfl
    rw [hempty, ← hnames]
    exact separators_nil
  · rw [separators_of_pieces (by rw [hcut]; exact hnone), hcut,
      List.filterMap_congr hnamed, List.filterMap_eq_map', hnames]

end Nomenclator.Listing

import Mathlib.Data.List.Permutation
import Nomenclator.Proofs.Listing.Rewritten

/-!
# Line by line

Splitting a listing looks at its lines: a line with an address opens a block, and the lines below it
are its body. This holds of the texts in which no address goes on behind the end of its line.
-/

namespace Nomenclator.Listing

/-! ## What is read as a separator -/

/-- What ends a separator is read as a whole, with white space behind it where the separator can go
on there. -/
theorem exists_separatorEnd? {t rest : Text} (ht : EndsSeparator t)
    (hrest : atLineEnd rest = true) :
    ∃ rest', rest' <:+ rest ∧ separatorEnd? (t ++ rest) = some rest' := by
  obtain ⟨blanks, dashes, spaces, ending, rfl, hblanks, hdashes, hspaces, hending⟩ := ht
  by_cases hsome : dashes = []
  · subst hsome
    have hall : ∀ r ∈ blanks ++ [] ++ spaces ++ ending, r.isBlank = true := by
      simp only [List.append_nil, List.forall_mem_append]
      refine ⟨⟨hblanks, fun r hr => isBlank_of_isSpaceOrTab (hspaces r hr)⟩, fun r hr => ?_⟩
      obtain rfl | rfl := hending
      · simp at hr
      · obtain rfl := List.mem_singleton.1 hr
        decide
    generalize blanks ++ [] ++ spaces ++ ending = t at hall ⊢
    unfold separatorEnd?
    dsimp only
    rw [List.takeWhile_append_of_pos hall, List.dropWhile_append_of_pos hall]
    split
    · exact ⟨_, (dropReturn_suffix _).trans <| (List.dropWhile_suffix _).trans <|
        (List.dropWhile_suffix _).trans (List.dropWhile_suffix _), rfl⟩
    · next hopen =>
      -- the last line feed of the white space is not in `t`
      have hfeed : ∃ r ∈ rest.takeWhile Rune.isBlank, r.code = 0x0A := by
        cases rest with
        | nil => exact absurd rfl hopen
        | cons r rest =>
          have hr : r.code = 0x0A := code_of_atLineEnd hrest r rfl
          refine ⟨r, ?_, hr⟩
          rw [List.takeWhile_cons_of_pos (isBlank_of_lineFeed hr)]
          exact List.mem_cons_self
      have hlast : ((rest.takeWhile Rune.isBlank).reverse.takeWhile fun r =>
          r.code != 0x0A).length < (rest.takeWhile Rune.isBlank).length :=
        takeWhile_reverse_lt_iff.2 (by simpa using hfeed)
      have hsame : (t ++ rest.takeWhile Rune.isBlank).reverse.takeWhile (fun r => r.code != 0x0A) =
          (rest.takeWhile Rune.isBlank).reverse.takeWhile fun r => r.code != 0x0A := by
        rw [List.reverse_append, List.takeWhile_append, if_neg]
        rw [List.length_reverse]
        exact hlast.ne
      rw [hsame, List.length_append, if_pos (by omega), List.drop_append,
        List.drop_eq_nil_of_le (by omega)]
      exact ⟨_, List.drop_suffix _ _, rfl⟩
  · exact ⟨rest, List.suffix_rfl,
      separatorEnd?_dashes hblanks hsome hdashes hspaces hending hrest⟩

theorem IsSeparator.exists_separator? {a rest : Text} (ha : IsSeparator a)
    (hrest : atLineEnd rest = true) : ∃ more, separator? (a ++ rest) = some (a ++ more) := by
  obtain ⟨digits, tail, hplaced, hdigits, htail⟩ := ha
  obtain ⟨rest', ⟨more, rfl⟩, hend⟩ := exists_separatorEnd? htail hrest
  exact ⟨more, separator?_eq_some_iff.2 ⟨rest', by rw [List.append_assoc],
    afterSeparator?_eq_some_iff.2 ⟨digits, _, hplaced.append _, hdigits, hend⟩⟩⟩

theorem isSeparator_iff (a : Text) : IsSeparator a ↔ separator? a = some a := by
  constructor
  · intro ha
    obtain ⟨more, hmore⟩ : ∃ more, separator? (a ++ []) = some (a ++ more) :=
      ha.exists_separator? rfl
    rw [List.append_nil] at hmore
    obtain ⟨rest, hsplit, -⟩ := separator?_eq_some_iff.1 hmore
    obtain rfl : more = [] := by
      have hlength := congrArg List.length hsplit
      simp only [List.length_append] at hlength
      exact List.eq_nil_of_length_eq_zero (by omega)
    rw [hmore, List.append_nil]
  · intro h
    obtain ⟨rest, -, ha, -⟩ := isSeparator_of_separator? h
    exact ha

instance : DecidablePred IsSeparator := fun a => decidable_of_iff _ (isSeparator_iff a).symm

/-! ## Lines -/

def IsLine (line : Text) : Prop := ∀ r ∈ line, r.code ≠ 0x0A

instance : DecidablePred IsLine := fun line => inferInstanceAs (Decidable (∀ r ∈ line, _))

/-- A separator on a line of its own. -/
def IsAddressLine (line : Text) : Prop := IsLine line ∧ IsSeparator line

instance : DecidablePred IsAddressLine := fun line =>
  inferInstanceAs (Decidable (IsLine line ∧ IsSeparator line))

/-- Cuts lines into those before the first address line and, for each address line, those up to the
next one. -/
def cutLines : List Text → List Text × List (Text × List Text)
  | [] => ([], [])
  | line :: rest =>
    let (above, pieces) := cutLines rest
    if IsAddressLine line then ([], (line, above) :: pieces) else (line :: above, pieces)

/-- The lines below an address line, without line breaks around them, make a block unless they are
blank. -/
def lineBlock? (address : Text) (below : List Text) : Option Block :=
  let body := Text.trim isLineBreak (ofLines below)
  if Text.isBlank body then none
  else some ⟨Text.dropEndWhile (fun r => r.code == 0x0D) address, body ++ [⟨0x0A⟩]⟩

/-- The blocks of a text, found by looking at one line after the other. -/
def lineBlocks (text : Text) : List Block :=
  match (cutLines (Text.lines text)).2 with
  | [] => if Text.isBlank text then [] else [⟨[], text⟩]
  | pieces => pieces.filterMap fun piece => lineBlock? piece.1 piece.2

theorem cutLines_names (lines : List Text) :
    (cutLines lines).2.map Prod.fst = lines.filter IsAddressLine := by
  induction lines with
  | nil => rfl
  | cons line rest ih =>
    rw [cutLines]
    dsimp only
    split
    · next haddress => rw [List.map_cons, ih, List.filter_cons_of_pos (by simpa using haddress)]
    · next hother => rw [ih, List.filter_cons_of_neg (by simpa using hother)]

/-! ## Separators on one line -/

/-- No separator that fills lines of the text fills more than one of them. -/
def OnOneLine (text : Text) : Prop :=
  ∀ before a rest, text = before ++ (a ++ rest) → startsLine true before = true →
    IsSeparator a → atLineEnd rest = true → IsLine a

theorem OnOneLine.of_line {line rest : Text} (h : OnOneLine (line ++ ⟨0x0A⟩ :: rest)) :
    OnOneLine rest := by
  intro before a after hsplit hline ha hafter
  refine h (line ++ ⟨0x0A⟩ :: before) a after ?_ ?_ ha hafter
  · rw [hsplit]
    simp
  · rw [startsLine_append]
    exact hline

theorem line_eq_of_append {a b s t : Text} (ha : IsLine a) (hb : IsLine b)
    (hs : atLineEnd s = true) (ht : atLineEnd t = true) (h : a ++ s = b ++ t) : a = b := by
  have hstop : ∀ {w : Text}, atLineEnd w = true → ∀ r ∈ w.head?, (r.code != 0x0A) = false :=
    fun hw r hr => by simpa using code_of_atLineEnd hw r hr
  calc a = (a ++ s).takeWhile fun r => r.code != 0x0A :=
        (Text.takeWhile_append_of_all (by simpa [IsLine] using ha) (hstop hs)).symm
    _ = (b ++ t).takeWhile fun r => r.code != 0x0A := by rw [h]
    _ = b := Text.takeWhile_append_of_all (by simpa [IsLine] using hb) (hstop ht)

theorem separator?_line {line w : Text} (hline : IsLine line) (hw : atLineEnd w = true)
    (h : OnOneLine (line ++ w)) :
    separator? (line ++ w) = if IsAddressLine line then some line else none := by
  split
  · next haddress =>
    obtain ⟨more, hmore⟩ := haddress.2.exists_separator? hw
    obtain ⟨rest, hsplit, ha, hrest⟩ := isSeparator_of_separator? hmore
    have hshort : IsLine (line ++ more) := h [] (line ++ more) rest hsplit rfl ha hrest
    rw [hmore, Option.some_inj]
    exact (line_eq_of_append hline hshort hw hrest hsplit).symm
  · next hother =>
    rw [← Option.not_isSome_iff_eq_none]
    intro hsome
    obtain ⟨a, ha⟩ := Option.isSome_iff_exists.1 hsome
    obtain ⟨rest, hsplit, hseparator, hrest⟩ := isSeparator_of_separator? ha
    have hshort : IsLine a := h [] a rest hsplit rfl hseparator hrest
    obtain rfl := line_eq_of_append hline hshort hw hrest hsplit
    exact hother ⟨hline, hseparator⟩

/-! ## The same blocks -/

theorem cut_step {line w : Text} (hline : IsLine line) (hw : atLineEnd w = true)
    (h : OnOneLine (line ++ w)) :
    cut true (line ++ w) =
      if IsAddressLine line then ([], (line, (cut false w).1) :: (cut false w).2)
      else (line ++ (cut false w).1, (cut false w).2) := by
  have hseparator := separator?_line hline hw h
  split
  · next haddress =>
    rw [if_pos haddress] at hseparator
    exact cut_separator hseparator
  · next hother =>
    rw [if_neg hother] at hseparator
    exact cut_passed hline hw hseparator

/-- A text stands for lines up to line breaks at its end. -/
def Spells (t : Text) (lines : List Text) : Prop :=
  ∃ breaks, t ++ [⟨0x0A⟩] = ofLines lines ++ breaks ∧ ∀ r ∈ breaks, isLineBreak r = true

theorem Spells.cons {t : Text} {lines : List Text} (h : Spells t lines) (line : Text) :
    Spells (line ++ ⟨0x0A⟩ :: t) (line :: lines) := by
  obtain ⟨breaks, hsame, hbreaks⟩ := h
  exact ⟨breaks, by simp [ofLines_cons, hsame], hbreaks⟩

theorem spells_nil : Spells [] [] := ⟨[⟨0x0A⟩], rfl, by decide⟩

theorem spells_line (line : Text) : Spells line [line] := ⟨[], by simp [ofLines], by simp⟩

theorem Spells.trim {t : Text} {lines : List Text} (h : Spells t lines) :
    Text.trim isLineBreak t = Text.trim isLineBreak (ofLines lines) := by
  obtain ⟨breaks, hsame, hbreaks⟩ := h
  have hfeed : ∀ r ∈ ([⟨0x0A⟩] : Text), isLineBreak r = true := by decide
  rw [← Text.trim_append_of_all t hfeed, hsame, Text.trim_append_of_all _ hbreaks]

/-- A piece of a text and a piece of its lines with the same separator, and below it the same but
for line breaks. -/
def SamePiece (piece : Text × Text) (lines : Text × List Text) : Prop :=
  piece.1 = lines.1 ∧ Text.trim isLineBreak piece.2 = Text.trim isLineBreak (ofLines lines.2)

theorem SamePiece.block? {piece : Text × Text} {lines : Text × List Text}
    (h : SamePiece piece lines) : block? piece = lineBlock? lines.1 lines.2 := by
  rw [Listing.block?, lineBlock?, h.1, h.2]

theorem cut_eq_cutLines (text : Text) (h : OnOneLine text) :
    Spells (cut true text).1 (cutLines (Text.lines text)).1 ∧
      List.Forall₂ SamePiece (cut true text).2 (cutLines (Text.lines text)).2 := by
  induction text using Text.lines_induction with
  | last line hline =>
    have hstep := cut_step hline (w := []) rfl (by simpa using h)
    rw [List.append_nil, cut_nil] at hstep
    rw [hstep, Text.lines_of_not_mem hline, cutLines, cutLines]
    dsimp only
    split
    · exact ⟨spells_nil, .cons ⟨rfl, rfl⟩ .nil⟩
    · rw [List.append_nil]
      exact ⟨spells_line line, .nil⟩
  | line line rest hline ih =>
    obtain ⟨habove, hpieces⟩ := ih h.of_line
    rw [cut_step hline rfl h, cut_lineFeed, Text.lines_append hline, cutLines]
    dsimp only
    split
    · refine ⟨spells_nil, .cons ⟨rfl, ?_⟩ hpieces⟩
      rw [Text.trim_cons_of_pos (by decide)]
      exact habove.trim
    · exact ⟨habove.cons line, hpieces⟩

theorem filterMap_block? {pieces : List (Text × Text)} {lines : List (Text × List Text)}
    (h : List.Forall₂ SamePiece pieces lines) :
    pieces.filterMap block? = lines.filterMap fun piece => lineBlock? piece.1 piece.2 := by
  induction h with
  | nil => rfl
  | cons hpiece hrest ih => rw [List.filterMap_cons, List.filterMap_cons, hpiece.block?, ih]

theorem map_fst_of_samePiece {pieces : List (Text × Text)} {lines : List (Text × List Text)}
    (h : List.Forall₂ SamePiece pieces lines) : pieces.map Prod.fst = lines.map Prod.fst := by
  induction h with
  | nil => rfl
  | cons hpiece hrest ih => rw [List.map_cons, List.map_cons, hpiece.1, ih]

theorem blocks_of_onOneLine {text : Text} (h : OnOneLine text) : blocks text = lineBlocks text := by
  obtain ⟨-, hpieces⟩ := cut_eq_cutLines text h
  unfold blocks lineBlocks
  generalize (cut true text).2 = pieces at hpieces ⊢
  generalize (cutLines (Text.lines text)).2 = lines at hpieces ⊢
  cases hpieces with
  | nil => rfl
  | cons hpiece hrest => exact filterMap_block? (.cons hpiece hrest)

theorem names_of_onOneLine {text : Text} (h : OnOneLine text) :
    (cut true text).2.map Prod.fst = (Text.lines text).filter IsAddressLine := by
  obtain ⟨-, hpieces⟩ := cut_eq_cutLines text h
  rw [← cutLines_names, map_fst_of_samePiece hpieces]

/-! ## Separators on several lines -/

theorem startsLine_line {b : Bool} {line : Text} (hline : IsLine line) (hsome : line ≠ []) :
    startsLine b line = false := by
  by_contra h
  obtain ⟨t, rfl⟩ := exists_of_startsLine (by simpa using h) hsome
  exact hline ⟨0x0A⟩ (by simp) rfl

theorem exists_piece_of_separator {b : Bool} {s : Text} :
    ∀ before a rest, s = before ++ (a ++ rest) → startsLine b before = true → IsSeparator a →
      atLineEnd rest = true → ¬IsLine a → ∃ piece ∈ (cut b s).2, ¬IsLine piece.1 := by
  induction b, s using cut_induction with
  | nil b =>
    intro before a rest hsplit _ _ _ hlong
    simp only [List.nil_eq, List.append_eq_nil_iff] at hsplit
    exact absurd (by simp [hsplit.2.1, IsLine]) hlong
  | separator found after hfound ih =>
    intro before a rest hsplit hline ha hrest hlong
    rw [cut_separator hfound]
    by_cases hfoundLine : IsLine found
    · rcases List.append_eq_append_iff.1 hsplit with ⟨t, rfl, hafter⟩ | ⟨t, rfl, hbelow⟩
      · -- the separator stands behind the one that is found
        rw [startsLine_append, startsLine_line hfoundLine (separator_ne_nil hfound)] at hline
        obtain ⟨piece, hpiece, hmore⟩ := ih t a rest hafter hline ha hrest hlong
        exact ⟨piece, List.mem_cons_of_mem _ hpiece, hmore⟩
      · -- both start at the same place, and what is found is not shorter
        obtain rfl : before = [] := by
          by_contra hsome
          rw [startsLine_line (fun r hr => hfoundLine r (List.mem_append_left _ hr)) hsome] at hline
          exact Bool.noConfusion hline
        obtain ⟨more, hmore⟩ := ha.exists_separator? hrest
        rw [hsplit, List.nil_append, hmore] at hfound
        injection hfound with hfound
        exact absurd (fun r hr => hfoundLine r (hfound ▸ List.mem_append_left _ hr)) hlong
    · exact ⟨_, List.mem_cons_self, hfoundLine⟩
  | cons b r after hnone ih =>
    intro before a rest hsplit hline ha hrest hlong
    rw [cut_cons hnone]
    cases before with
    | nil =>
      obtain rfl : b = true := hline
      obtain ⟨more, hmore⟩ := ha.exists_separator? hrest
      rw [hsplit, List.nil_append, hmore] at hnone
      exact absurd (hnone rfl) (by simp)
    | cons first before =>
      rw [List.cons_append] at hsplit
      injection hsplit with hfirst hsplit
      exact ih before a rest hsplit (hfirst ▸ hline) ha hrest hlong

theorem onOneLine_of_names {text : Text}
    (h : (cut true text).2.map Prod.fst = (Text.lines text).filter IsAddressLine) :
    OnOneLine text := by
  intro before a rest hsplit hline ha hrest
  by_contra hlong
  obtain ⟨piece, hpiece, hmore⟩ :=
    exists_piece_of_separator (b := true) before a rest hsplit hline ha hrest hlong
  have hmem : piece.1 ∈ (cut true text).2.map Prod.fst := List.mem_map_of_mem hpiece
  rw [h, List.mem_filter, decide_eq_true_eq] at hmem
  exact hmore hmem.2.1

theorem isLine_separator {text : Text} (h : OnOneLine text) :
    ∀ block ∈ blocks text, IsLine block.separator := by
  intro block hblock
  by_cases hnone : (cut true text).2 = []
  · rw [blocks_of_nil hnone] at hblock
    split at hblock
    · simp at hblock
    · obtain rfl := List.mem_singleton.1 hblock
      simp [IsLine]
  · rw [blocks_of_pieces hnone, List.mem_filterMap] at hblock
    obtain ⟨piece, hpiece, hsome⟩ := hblock
    have hmem : piece.1 ∈ (cut true text).2.map Prod.fst := List.mem_map_of_mem hpiece
    rw [names_of_onOneLine h, List.mem_filter, decide_eq_true_eq] at hmem
    rw [(block?_eq_some hsome).1]
    exact fun r hr => hmem.2.1 r ((Text.isPrefix_dropEndWhile _ _).subset hr)

/-- Looking at one line after the other finds the same separators just where no separator fills
several lines, and then it gives the same blocks, each with one line for its separator. -/
theorem blocks_eq_lineBlocks (text : Text) :
    (OnOneLine text ↔
      (cut true text).2.map Prod.fst = (Text.lines text).filter IsAddressLine) ∧
    (OnOneLine text →
      blocks text = lineBlocks text ∧ ∀ block ∈ blocks text, IsLine block.separator) :=
  ⟨⟨names_of_onOneLine, onOneLine_of_names⟩, fun h => ⟨blocks_of_onOneLine h, isLine_separator h⟩⟩

/-- A listing whose lines end with carriage returns. -/
def returnListing : Text := "#include <a.h>\r\n//----- (1F) --- \r\n\r\nint f;\r\n"

theorem blocks_eq_lineBlocks_return :
    OnOneLine returnListing ∧ blocks returnListing = lineBlocks returnListing ∧
      blocks returnListing = [⟨"//----- (1F) --- ", "int f;\n"⟩] := by
  obtain ⟨hiff, hsame⟩ := blocks_eq_lineBlocks returnListing
  have hline : OnOneLine returnListing := hiff.2 (by cbv)
  exact ⟨hline, (hsame hline).1, by cbv⟩

/-- A listing with an empty line below an address that no dashes follow. -/
def spacedListing : Text := "//----- (140001000)\n\nint f(void);\n"

/-- White space behind an address may hold line feeds, so the separator goes on over the end of its
line. -/
theorem blocks_ne_lineBlocks_spaced :
    blocks spacedListing = [⟨"//----- (140001000)\n", "int f(void);\n"⟩] ∧
      lineBlocks spacedListing = [⟨"//----- (140001000)", "int f(void);\n"⟩] ∧
      blocks spacedListing ≠ lineBlocks spacedListing := by
  have hblocks : blocks spacedListing =
      [⟨"//----- (140001000)\n", "int f(void);\n"⟩] := by cbv
  have hlines : lineBlocks spacedListing =
      [⟨"//----- (140001000)", "int f(void);\n"⟩] := by cbv
  refine ⟨hblocks, hlines, ?_⟩
  rw [hblocks, hlines]
  decide

end Nomenclator.Listing

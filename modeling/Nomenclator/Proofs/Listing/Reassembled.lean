import Nomenclator.Proofs.Listing.Matches

/-!
# Listings put together again

The blocks of a listing, written one below the other, are the blocks of what was written: a
separator takes the same white space and dashes again, and no line of a body becomes a separator.
-/

namespace Nomenclator.Listing

/-- A block as it is written: its separator on a line of its own, if it has one, and its body. -/
def Block.text (block : Block) : Text :=
  (if block.separator.isEmpty then [] else block.separator ++ [⟨0x0A⟩]) ++ block.body

def reassemble (blocks : List Block) : Text := Text.join [⟨0x0A⟩] (blocks.map Block.text)

/-! ## Separators that end where they ended -/

theorem separatorEnd?_blanks {blanks rest left : Text} (hblanks : ∀ r ∈ blanks, r.isBlank = true)
    (h : separatorEnd? rest = some left) : separatorEnd? (blanks ++ rest) = some left := by
  induction blanks with
  | nil => exact h
  | cons r blanks ih =>
    rw [List.forall_mem_cons] at hblanks
    rw [List.cons_append, separatorEnd?_cons hblanks.1, ih hblanks.2]
    rfl

theorem separatorEnd?_feed (rest : Text) :
    separatorEnd? (⟨0x0A⟩ :: rest) = (separatorEnd? rest <|> some (⟨0x0A⟩ :: rest)) := by
  have hclosed : closed (⟨0x0A⟩ :: rest) = ⟨0x0A⟩ :: rest := by
    simp [closed, isDash, isSpaceOrTab, dropReturn]
  rw [separatorEnd?_cons (by decide), hclosed]
  rfl

/-- White space ends before its last line feed where nothing behind that feed could end it. -/
theorem separatorEnd?_blanks_feed_iff {blanks : Text} (hblanks : ∀ r ∈ blanks, r.isBlank = true)
    (rest : Text) :
    separatorEnd? (blanks ++ ⟨0x0A⟩ :: rest) = some (⟨0x0A⟩ :: rest) ↔
      separatorEnd? rest = none := by
  constructor
  · intro h
    cases hrest : separatorEnd? rest with
    | none => rfl
    | some left =>
      have hfeed : separatorEnd? (⟨0x0A⟩ :: rest) = some left := by
        rw [separatorEnd?_feed, hrest]
        rfl
      rw [separatorEnd?_blanks hblanks hfeed] at h
      injection h with h
      have hlength := (suffix_of_separatorEnd? hrest).length_le
      rw [h, List.length_cons] at hlength
      omega
  · intro hnone
    refine separatorEnd?_blanks hblanks ?_
    rw [separatorEnd?_feed, hnone]
    rfl

theorem exists_end_of_separator? {a rest : Text} (h : separator? (a ++ rest) = some a) :
    ∃ t, t <:+ a ∧ EndsSeparator t ∧ separatorEnd? (t ++ rest) = some rest ∧
      ∀ rest', separatorEnd? (t ++ rest') = some rest' → separator? (a ++ rest') = some a := by
  obtain ⟨rest', hsplit, ⟨digits, t, hplaced, hdigits, ht⟩, -⟩ := isSeparator_of_separator? h
  obtain rfl := List.append_cancel_left hsplit
  have hafter (w : Text) : afterSeparator? (a ++ w) = separatorEnd? (t ++ w) := by
    rw [(hplaced.append w).afterSeparator?, afterOpening?_of_hex hdigits]
  refine ⟨t, hplaced.tail_suffix, ht, ?_, fun w hw => ?_⟩
  · obtain ⟨left, hleft, hend⟩ := separator?_eq_some_iff.1 h
    obtain rfl := List.append_cancel_left hleft
    rw [← hafter, hend]
  · exact separator?_eq_some_iff.2 ⟨w, rfl, by rw [hafter, hw]⟩

/-! ## Bodies without line breaks around them -/

theorem separatorEnd?_append_eq_none_iff {w : Text} (h : Follows w) (t : Text) :
    separatorEnd? (t ++ w) = none ↔ separatorEnd? t = none := by
  rw [← Option.not_isSome_iff_eq_none, ← Option.not_isSome_iff_eq_none,
    isSome_separatorEnd?_append h]

theorem trim_feed_of_separatorEnd?_none {body more : Text} (hreturn : ∀ r ∈ body, r.code ≠ 0x0D)
    (h : separatorEnd? (body ++ more) = none) :
    Text.trim isLineBreak (⟨0x0A⟩ :: body) = Text.dropEndWhile isLineBreak body := by
  rw [Text.trim_cons_of_pos (by decide)]
  cases body with
  | nil => rfl
  | cons r rest =>
    have hr : isLineBreak r = false := by
      by_contra hbreak
      obtain ⟨code⟩ := r
      obtain rfl : code = 0x0A := by
        simpa [isLineBreak, hreturn ⟨code⟩ List.mem_cons_self] using hbreak
      rw [List.cons_append, separatorEnd?_feed] at h
      cases hrest : separatorEnd? (rest ++ more) <;> simp [hrest] at h
    rw [Text.trim, List.dropWhile_cons_of_neg (by simp [hr])]

/-- What may follow a body: nothing, or a line that starts with a slash. -/
def FollowsBody (body more : Text) : Prop :=
  more = [] ∨ startsLine false body = true ∧ more.head? = some ⟨0x2F⟩

theorem FollowsBody.follows {body more core feeds : Text} (h : FollowsBody body more)
    (hbody : body = core ++ feeds) (hfeeds : ∀ r ∈ feeds, r.code = 0x0A) (hcore : core ≠ [])
    (hlast : ∀ r ∈ core.getLast?, r.code ≠ 0x0A) : Follows (feeds ++ more) := by
  have hskip : (feeds ++ more).dropWhile Rune.isBlank = more.dropWhile Rune.isBlank :=
    List.dropWhile_append_of_pos fun r hr => isBlank_of_lineFeed (hfeeds r hr)
  rcases h with rfl | ⟨hline, hslash⟩
  · rw [List.append_nil] at hskip ⊢
    exact ⟨fun r hr => hfeeds r (List.mem_of_mem_head? hr), by simp [hskip]⟩
  · obtain ⟨rest, rfl⟩ := List.head?_eq_some_iff.1 hslash
    refine ⟨fun r hr => ?_, ?_⟩
    · cases feeds with
      | nil =>
        -- then the body ends in the middle of a line
        rw [List.append_nil] at hbody
        obtain ⟨s, rfl⟩ := exists_of_startsLine hline (hbody ▸ hcore)
        rw [← hbody] at hlast
        exact absurd rfl (hlast ⟨0x0A⟩ (by simp))
      | cons feed feeds =>
        obtain rfl : feed = r := by simpa using hr
        exact hfeeds feed List.mem_cons_self
    · rw [hskip, List.dropWhile_cons_of_neg (by decide)]
      rintro r ⟨⟩
      rfl

/-- Below the line feeds at its end, a body is followed by something that no separator in it can
reach. -/
theorem exists_feeds_of_followsBody {rest more : Text} (hreturn : ∀ r ∈ rest, r.code ≠ 0x0D)
    (hsome : Text.isBlank rest = false) (hmore : FollowsBody (⟨0x0A⟩ :: rest) more) :
    ∃ feeds, rest = Text.dropEndWhile isLineBreak rest ++ feeds ∧ Follows (feeds ++ more) := by
  obtain ⟨feeds, hfeeds, hall⟩ := Text.exists_dropEndWhile isLineBreak rest
  have hfeed : ∀ r ∈ feeds, r.code = 0x0A := fun r hr => by
    simpa [isLineBreak, hreturn r (hfeeds ▸ List.mem_append_right _ hr)] using hall r hr
  have hcore : Text.dropEndWhile isLineBreak rest ≠ [] := by
    intro hnone
    rw [hnone, List.nil_append] at hfeeds
    have hblank : Text.isBlank rest = true :=
      hfeeds ▸ List.all_eq_true.2 fun r hr => isBlank_of_lineFeed (hfeed r hr)
    rw [hblank] at hsome
    exact Bool.noConfusion hsome
  have hsplit : ⟨0x0A⟩ :: rest = (⟨0x0A⟩ :: Text.dropEndWhile isLineBreak rest) ++ feeds := by
    rw [List.cons_append, ← hfeeds]
  refine ⟨feeds, hfeeds, hmore.follows hsplit hfeed (by simp) fun r hr hcode => ?_⟩
  rw [List.getLast?_cons_of_ne_nil hcore] at hr
  have hlast := Text.getLast?_dropEndWhile r hr
  simp [isLineBreak, hcode] at hlast

theorem separatorEnd?_above_trim {blanks rest more w : Text}
    (hblanks : ∀ r ∈ blanks, r.isBlank = true) (hreturn : ∀ r ∈ rest, r.code ≠ 0x0D)
    (hsome : Text.isBlank rest = false) (hmore : FollowsBody (⟨0x0A⟩ :: rest) more)
    (hw : Follows w)
    (h : separatorEnd? (blanks ++ ⟨0x0A⟩ :: (rest ++ more)) = some (⟨0x0A⟩ :: (rest ++ more))) :
    separatorEnd? (blanks ++ ⟨0x0A⟩ :: (Text.trim isLineBreak (⟨0x0A⟩ :: rest) ++ w)) =
      some (⟨0x0A⟩ :: (Text.trim isLineBreak (⟨0x0A⟩ :: rest) ++ w)) := by
  have hnone : separatorEnd? (rest ++ more) = none := (separatorEnd?_blanks_feed_iff hblanks _).1 h
  obtain ⟨feeds, hfeeds, hfollows⟩ := exists_feeds_of_followsBody hreturn hsome hmore
  rw [trim_feed_of_separatorEnd?_none hreturn hnone, separatorEnd?_blanks_feed_iff hblanks,
    separatorEnd?_append_eq_none_iff hw, ← separatorEnd?_append_eq_none_iff hfollows,
    ← List.append_assoc, ← hfeeds]
  exact hnone

theorem separator?_above_trim {a body more w : Text}
    (h : separator? (a ++ (body ++ more)) = some a) (hreturn : ∀ r ∈ a ++ body, r.code ≠ 0x0D)
    (hbody : Text.isBlank body = false) (hmore : FollowsBody body more) (hw : Follows w) :
    separator? (a ++ (⟨0x0A⟩ :: Text.trim isLineBreak body ++ w)) = some a := by
  obtain ⟨t, htail, ht, hend, hfound⟩ := exists_end_of_separator? h
  refine hfound _ ?_
  rw [List.forall_mem_append] at hreturn
  rcases ht.closesAddress fun r hr => hreturn.1 r (htail.subset hr) with
    hblank | ⟨blanks, dashes, spaces, rfl, hblanks, hsome, hdashes, hspaces⟩
  · obtain ⟨-, -, -, hline⟩ := endsSeparator_of_separatorEnd? hend
    cases body with
    | nil => exact absurd hbody (by decide)
    | cons r rest =>
      obtain ⟨code⟩ := r
      obtain rfl : code = 0x0A := code_of_atLineEnd hline _ rfl
      exact separatorEnd?_above_trim hblank (List.forall_mem_cons.1 hreturn.2).2 hbody hmore hw hend
  · -- dashes end with their line, whatever is on the next one
    have hdone := separatorEnd?_dashes hblanks hsome hdashes hspaces (.inl rfl)
      (show atLineEnd (⟨0x0A⟩ :: Text.trim isLineBreak body ++ w) = true from rfl)
    rwa [List.append_nil] at hdone

/-! ## Blocks that stand by themselves -/

theorem Follows.lineFeed_cons {w : Text} (h : Follows w) : Follows (⟨0x0A⟩ :: w) := by
  refine ⟨by rintro r ⟨⟩; rfl, ?_⟩
  rw [List.dropWhile_cons_of_pos (by decide)]
  exact h.slash

theorem exists_behind_of_mem_cut {b : Bool} {s : Text} :
    ∀ piece ∈ (cut b s).2, ∃ more, separator? (piece.1 ++ (piece.2 ++ more)) = some piece.1 ∧
      FollowsBody piece.2 more := by
  induction b, s using cut_induction with
  | nil b => simp [cut_nil]
  | separator a rest h ih =>
    rw [cut_separator h]
    refine List.forall_mem_cons.2 ⟨?_, ih⟩
    obtain ⟨w, hw, hmore⟩ := cut_before false rest
    refine ⟨w, by rwa [hw] at h, ?_⟩
    by_cases hempty : w = []
    · exact .inl hempty
    · obtain ⟨hline, hsome⟩ := hmore hempty
      obtain ⟨a', ha'⟩ := Option.isSome_iff_exists.1 hsome
      obtain ⟨v, rfl⟩ := slashes_of_separator? ha'
      exact .inr ⟨hline, rfl⟩
  | cons b r rest h ih =>
    rw [cut_cons h]
    exact ih

def Block.piece (block : Block) : Text × Text := (block.separator, ⟨0x0A⟩ :: block.body)

/-- A block that is found again where it is written. -/
structure Block.Stable (block : Block) : Prop where
  stands : Stands block.piece
  again : ∀ piece, SameButFeeds block.piece piece → block? piece = some block

theorem Block.Stable.text_eq {block : Block} (h : block.Stable) :
    block.text = block.piece.1 ++ block.piece.2 := by
  have hsome : block.separator ≠ [] := separator_ne_nil (h.stands.found [] follows_nil)
  rw [Block.text, if_neg (by simpa using hsome), List.append_assoc]
  rfl

theorem trim_written (body : Text) {feeds : Text} (h : ∀ r ∈ feeds, r.code = 0x0A) :
    Text.trim isLineBreak (⟨0x0A⟩ :: (Text.trim isLineBreak body ++ [⟨0x0A⟩]) ++ feeds) =
      Text.trim isLineBreak body := by
  have hfeeds : ∀ r ∈ feeds, isLineBreak r = true := fun r hr => by simp [isLineBreak, h r hr]
  rw [Text.trim_append_of_all _ hfeeds, Text.trim_cons_of_pos (by decide),
    Text.trim_append_of_all _ (by decide), Text.trim_trim]

theorem stable_of_mem_blocks {text : Text} (hreturn : ∀ r ∈ text, r.code ≠ 0x0D)
    (hpieces : (cut true text).2 ≠ []) : ∀ block ∈ blocks text, block.Stable := by
  intro block hblock
  obtain ⟨-, hclear⟩ := clear_of_mem_blocks hreturn hpieces hblock
  rw [blocks_of_pieces hpieces, List.mem_filterMap] at hblock
  obtain ⟨⟨a, body⟩, hmem, hsome⟩ := hblock
  have hkept : ∀ r ∈ a ++ body, r.code ≠ 0x0D := fun r hr => hreturn r (subset_of_mem_cut hmem hr)
  have hbody : Text.isBlank body = false := by
    by_contra hblank
    rw [block?_eq, if_pos (by simpa using hblank)] at hsome
    simp at hsome
  obtain ⟨more, hfound, hmore⟩ := exists_behind_of_mem_cut _ hmem
  obtain ⟨hseparator, htrimmed⟩ := block?_eq_some hsome
  rw [Text.dropEndWhile_of_not fun r hr => by
    simpa using hkept r (List.mem_append_left _ hr)] at hseparator
  obtain ⟨separator, body'⟩ := block
  obtain rfl : separator = a := hseparator
  obtain rfl : body' = Text.trim isLineBreak body ++ [⟨0x0A⟩] := htrimmed
  refine ⟨⟨fun w hw => ?_, ?_⟩, ?_⟩
  · have habove := separator?_above_trim hfound hkept hbody hmore hw.lineFeed_cons
    simpa [Block.piece] using habove
  · rw [Block.piece, cut_lineFeed]
    exact hclear
  · rintro ⟨a', below⟩ ⟨ha, feeds, hbelow, hfeeds⟩
    obtain rfl : a' = separator := ha
    obtain rfl : below = _ := hbelow
    rw [← hsome, block?, block?, Block.piece, trim_written body hfeeds]

theorem blocks_of_stable {written : List Block} (h : ∀ block ∈ written, block.Stable) :
    blocks (reassemble written) = written := by
  have hjoin : reassemble written = unsplit (written.map Block.piece) := by
    rw [reassemble, unsplit, List.map_map]
    exact congrArg _ (List.map_congr_left fun block hblock => (h block hblock).text_eq)
  have hstands : ∀ piece ∈ written.map Block.piece, Stands piece :=
    List.forall_mem_map.2 fun block hblock => (h block hblock).stands
  obtain ⟨pieces, hcut, hsame⟩ := cut_unsplit hstands
  have hagain : pieces.filterMap block? = written := by
    rw [List.forall₂_map_left_iff] at hsame
    clear hcut hjoin hstands
    induction hsame with
    | nil => rfl
    | cons hfirst hrest ih =>
      obtain ⟨hblock, hmore⟩ := List.forall_mem_cons.1 h
      rw [List.filterMap_cons, hblock.again _ hfirst, ih hmore]
  cases written with
  | nil => exact blocks_of_nil (congrArg Prod.snd (cut_nil true))
  | cons block rest =>
    have hsome : (cut true (reassemble (block :: rest))).2 ≠ [] := by
      rw [hjoin, hcut]
      rintro rfl
      cases hsame
    rw [blocks_of_pieces hsome, hjoin, hcut, hagain]

/-- What is put together from the blocks of a text without carriage returns has the same blocks. -/
theorem blocks_reassemble (text : Text) (hreturn : ∀ r ∈ text, r.code ≠ 0x0D) :
    blocks (reassemble (blocks text)) = blocks text := by
  by_cases hpieces : (cut true text).2 = []
  · have hblocks := blocks_of_nil hpieces
    split at hblocks
    · rw [hblocks]
      exact blocks_of_nil (congrArg Prod.snd (cut_nil true))
    · rw [hblocks]
      exact hblocks
  · exact blocks_of_stable (stable_of_mem_blocks hreturn hpieces)

def looseListing : Text :=
  "#include <a.h>\n//----- (1F)\n\n----\n\n\nint f;\n\n\n//----- (20)\n\n//-----(3) ---\n x"

theorem blocks_reassemble_loose :
    (∀ r ∈ looseListing, r.code ≠ 0x0D) ∧
      blocks looseListing =
        [⟨"//----- (1F)\n\n----", "int f;\n"⟩, ⟨"//-----(3) ---", " x\n"⟩] ∧
      blocks (reassemble (blocks looseListing)) = blocks looseListing := by
  have hreturn : ∀ r ∈ looseListing, r.code ≠ 0x0D := by decide
  exact ⟨hreturn, by cbv, blocks_reassemble looseListing hreturn⟩

end Nomenclator.Listing

import Nomenclator.Proofs.Listing.Separators

/-!
# Cuts at separators

A text is cut where its separators stand, and nothing is lost. What is cut out holds no separator,
and it keeps none when it is put between lines that end before it and start after it.
-/

namespace Nomenclator.Listing

/-! ## One separator -/

theorem suffix_of_afterSeparator? {s rest : Text} (h : afterSeparator? s = some rest) :
    rest <:+ s := by
  obtain ⟨digits, tail, hplaced, -, hend⟩ := afterSeparator?_eq_some_iff.1 h
  exact (suffix_of_separatorEnd? hend).trans hplaced.tail_suffix

theorem separator?_eq_some_iff {s separator : Text} :
    separator? s = some separator ↔
      ∃ rest, s = separator ++ rest ∧ afterSeparator? s = some rest := by
  rw [separator?, Option.map_eq_some_iff]
  constructor
  · rintro ⟨rest, hrest, rfl⟩
    obtain ⟨a, rfl⟩ := suffix_of_afterSeparator? hrest
    exact ⟨rest, by simp, hrest⟩
  · rintro ⟨rest, rfl, hrest⟩
    exact ⟨rest, hrest, by simp⟩

theorem isSeparator_of_separator? {s a : Text} (h : separator? s = some a) :
    ∃ rest, s = a ++ rest ∧ IsSeparator a ∧ atLineEnd rest = true := by
  obtain ⟨rest, rfl, hrest⟩ := separator?_eq_some_iff.1 h
  obtain ⟨a', hsplit, ha', hend⟩ := isSeparator_of_afterSeparator? hrest
  obtain rfl := List.append_cancel_right hsplit
  exact ⟨rest, rfl, ha', hend⟩

theorem isSome_separator? (s : Text) : (separator? s).isSome = (afterSeparator? s).isSome := by
  rw [separator?, Option.isSome_map]

theorem slashes_of_separator? {s separator : Text} (h : separator? s = some separator) :
    [⟨0x2F⟩, ⟨0x2F⟩] <+: s := by
  obtain ⟨rest, -, hrest⟩ := separator?_eq_some_iff.1 h
  obtain ⟨digits, tail, hplaced, -⟩ := afterSeparator?_eq_some_iff.1 hrest
  exact hplaced.slashes

theorem separator?_of_not_slashes {s : Text} (h : ¬[⟨0x2F⟩, ⟨0x2F⟩] <+: s) :
    separator? s = none := by
  rw [separator?, afterSeparator?_of_not_slashes h]
  rfl

theorem separator?_lineFeed (s : Text) : separator? (⟨0x0A⟩ :: s) = none := by
  refine separator?_of_not_slashes fun h => ?_
  simp at h

theorem separator_ne_nil {s separator : Text} (h : separator? s = some separator) :
    separator ≠ [] := by
  rintro rfl
  obtain ⟨rest, rfl, hrest⟩ := separator?_eq_some_iff.1 h
  obtain ⟨digits, tail, ⟨dashes, blanks, hparts, -⟩, -, hend⟩ := afterSeparator?_eq_some_iff.1 hrest
  have hlonger := congrArg List.length hparts
  have hshorter := (suffix_of_separatorEnd? hend).length_le
  simp only [List.length_append, List.length_cons] at hlonger
  omega

theorem separator?_address {a : Text} (ha : IsAddress a) (v : Text) :
    separator? (a ++ ⟨0x0A⟩ :: ⟨0x2F⟩ :: v) = some a :=
  separator?_eq_some_iff.2 ⟨_, rfl, afterSeparator?_address ha v⟩

/-! ## Steps -/

theorem cut_nil (b : Bool) : cut b [] = ([], []) := by rw [cut]

theorem cut_cons {b : Bool} {r : Rune} {rest : Text}
    (h : b = true → separator? (r :: rest) = none) :
    cut b (r :: rest) =
      (r :: (cut (r.code == 0x0A) rest).1, (cut (r.code == 0x0A) rest).2) := by
  have hnone : (if b = true then separator? (r :: rest) else none) = none := by
    split
    · next hb => exact h hb
    · rfl
  rw [cut, hnone]

theorem cut_lineFeed (b : Bool) (s : Text) :
    cut b (⟨0x0A⟩ :: s) = (⟨0x0A⟩ :: (cut true s).1, (cut true s).2) :=
  cut_cons fun _ => separator?_lineFeed s

theorem cut_separator {separator rest : Text}
    (h : separator? (separator ++ rest) = some separator) :
    cut true (separator ++ rest) = ([], (separator, (cut false rest).1) :: (cut false rest).2) := by
  obtain ⟨r, more, rfl⟩ := List.exists_cons_of_ne_nil (separator_ne_nil h)
  rw [List.cons_append] at h ⊢
  rw [cut, if_pos rfl, h]
  simp

/-- Induction over a text, cut by cut: where a line starts with a separator, the text goes on behind
it, else behind the next character. -/
theorem cut_induction {P : Bool → Text → Prop} (nil : ∀ b, P b [])
    (separator : ∀ separator rest, separator? (separator ++ rest) = some separator →
      P false rest → P true (separator ++ rest))
    (cons : ∀ b r rest, (b = true → separator? (r :: rest) = none) → P (r.code == 0x0A) rest →
      P b (r :: rest)) (b : Bool) (s : Text) : P b s := by
  cases s with
  | nil => exact nil b
  | cons r rest =>
    by_cases h : b = true → separator? (r :: rest) = none
    · exact cons b r rest h (cut_induction nil separator cons _ rest)
    · obtain ⟨rfl, hsome⟩ := Classical.not_imp.1 h
      obtain ⟨a, ha⟩ := Option.ne_none_iff_exists'.1 hsome
      obtain ⟨after, hafter, -⟩ := separator?_eq_some_iff.1 ha
      have hlength : after.length < (r :: rest).length := by
        have hsome := List.length_pos_iff.2 (separator_ne_nil ha)
        rw [hafter, List.length_append]
        omega
      exact hafter ▸ separator a after (hafter ▸ ha) (cut_induction nil separator cons false after)
termination_by s.length
decreasing_by
  · exact Nat.lt_succ_self _
  · exact hlength

theorem flatten_cut (b : Bool) (s : Text) :
    (cut b s).1 ++ (cut b s).2.flatMap (fun piece => piece.1 ++ piece.2) = s := by
  induction b, s using cut_induction with
  | nil b => rw [cut_nil]; rfl
  | separator a rest h ih =>
    rw [cut_separator h]
    simpa using ih
  | cons b r rest h ih =>
    rw [cut_cons h]
    simpa using ih

/-! ## Texts without separators -/

/-- Does a line start behind `s`, where one starts before it as `b` says? -/
def startsLine (b : Bool) (s : Text) : Bool := s.foldl (fun _ r => r.code == 0x0A) b

theorem startsLine_append (b : Bool) (s t : Text) :
    startsLine b (s ++ t) = startsLine (startsLine b s) t := List.foldl_append

theorem exists_of_startsLine {b : Bool} {s : Text} (h : startsLine b s = true) (hs : s ≠ []) :
    ∃ t, s = t ++ [⟨0x0A⟩] := by
  obtain ⟨t, ⟨code⟩, rfl⟩ := List.eq_nil_or_concat s |>.resolve_left hs
  rw [List.concat_eq_append, startsLine_append] at h
  obtain rfl : code = 0x0A := by simpa [startsLine] using h
  exact ⟨t, List.concat_eq_append⟩

theorem follows_lineFeed {w : Text} (h : ∀ r ∈ w.head?, r = ⟨0x2F⟩) : Follows (⟨0x0A⟩ :: w) := by
  refine ⟨by rintro r ⟨⟩; rfl, ?_⟩
  have hskip : (⟨0x0A⟩ :: w : Text).dropWhile Rune.isBlank = w := by
    rw [List.dropWhile_cons_of_pos (by decide)]
    cases w with
    | nil => rfl
    | cons r rest =>
      obtain rfl := h r rfl
      rfl
  rwa [hskip]

theorem isSome_separator?_append {w : Text} (h : Follows w) (v : Text) :
    (separator? (v ++ w)).isSome = (separator? v).isSome := by
  rw [isSome_separator?, isSome_separator?, isSome_afterSeparator?_append h]

theorem separator?_append_eq_none_iff {w : Text} (h : Follows w) (v : Text) :
    separator? (v ++ w) = none ↔ separator? v = none := by
  rw [← Option.not_isSome_iff_eq_none, ← Option.not_isSome_iff_eq_none, isSome_separator?_append h]

theorem cut_append {w : Text} (hw : Follows w) {b : Bool} {s : Text} (h : (cut b s).2 = []) :
    cut b (s ++ w) = (s ++ (cut (startsLine b s) w).1, (cut (startsLine b s) w).2) := by
  induction b, s using cut_induction with
  | nil b => rfl
  | separator a rest ha ih => simp [cut_separator ha] at h
  | cons b r rest hr ih =>
    rw [cut_cons hr] at h
    have hr' : b = true → separator? (r :: (rest ++ w)) = none := fun hb =>
      (separator?_append_eq_none_iff hw (r :: rest)).2 (hr hb)
    rw [List.cons_append, cut_cons hr', ih h]
    rfl

theorem cut_of_append {w : Text} (hw : Follows w) {b : Bool} {s : Text}
    (h : (cut b (s ++ w)).2 = []) : (cut b s).2 = [] := by
  induction s generalizing b with
  | nil => rw [cut_nil]
  | cons r rest ih =>
    have hnone : b = true → separator? (r :: rest) = none := by
      rintro rfl
      rw [← separator?_append_eq_none_iff hw]
      cases hsome : separator? (r :: rest ++ w) with
      | none => rfl
      | some a =>
        obtain ⟨after, hafter, -⟩ := separator?_eq_some_iff.1 hsome
        rw [hafter] at h hsome
        simp [cut_separator hsome] at h
    rw [cut_cons hnone]
    refine ih ?_
    rw [List.cons_append, cut_cons] at h
    · exact h
    · exact fun hb => (separator?_append_eq_none_iff hw (r :: rest)).2 (hnone hb)

/-! ## Lines -/

/-- A line that no address stands on. -/
def IsPlainLine (line : Text) : Prop :=
  (∀ r ∈ line, r.code ≠ 0x0A) ∧ ¬[⟨0x2F⟩, ⟨0x2F⟩] <+: line

theorem cut_restOfLine {line : Text} (h : ∀ r ∈ line, r.code ≠ 0x0A) (w : Text) :
    cut false (line ++ w) = (line ++ (cut false w).1, (cut false w).2) := by
  induction line with
  | nil => rfl
  | cons r rest ih =>
    have hr : (r.code == 0x0A) = false := by simpa using h r List.mem_cons_self
    rw [List.cons_append, cut_cons (by simp), hr, ih fun x hx => h x (List.mem_cons_of_mem _ hx)]
    rfl

theorem cut_passed {line w : Text} (h : ∀ r ∈ line, r.code ≠ 0x0A) (hw : atLineEnd w = true)
    (hnone : separator? (line ++ w) = none) :
    cut true (line ++ w) = (line ++ (cut false w).1, (cut false w).2) := by
  cases line with
  | nil =>
    cases w with
    | nil =>
      rw [List.nil_append, cut_nil, cut_nil]
      rfl
    | cons r rest =>
      obtain ⟨code⟩ := r
      obtain rfl : code = 0x0A := code_of_atLineEnd hw _ rfl
      rw [List.nil_append, cut_lineFeed, cut_lineFeed, List.nil_append]
  | cons r rest =>
    have hr : (r.code == 0x0A) = false := by simpa using h r List.mem_cons_self
    rw [List.cons_append] at hnone ⊢
    rw [cut_cons fun _ => hnone, hr, cut_restOfLine fun x hx => h x (List.mem_cons_of_mem _ hx)]
    rfl

theorem cut_line {line : Text} (h : IsPlainLine line) (w : Text) :
    cut true (line ++ ⟨0x0A⟩ :: w) = (line ++ ⟨0x0A⟩ :: (cut true w).1, (cut true w).2) := by
  have hnone : separator? (line ++ ⟨0x0A⟩ :: w) = none :=
    separator?_of_not_slashes fun hslashes =>
      h.2 (slashes_of_append (by rintro r ⟨⟩; rfl) hslashes)
  rw [cut_passed h.1 rfl hnone, cut_lineFeed]

/-- Lines as one text. -/
def ofLines (lines : List Text) : Text := lines.flatMap (· ++ [⟨0x0A⟩])

theorem ofLines_cons (line : Text) (rest : List Text) :
    ofLines (line :: rest) = line ++ ⟨0x0A⟩ :: ofLines rest := by simp [ofLines]

theorem cut_lines {lines : List Text} (h : ∀ line ∈ lines, IsPlainLine line) (w : Text) :
    cut true (ofLines lines ++ w) = (ofLines lines ++ (cut true w).1, (cut true w).2) := by
  induction lines with
  | nil => rfl
  | cons line rest ih =>
    obtain ⟨hline, hrest⟩ := List.forall_mem_cons.1 h
    have hsplit (u : Text) : ofLines (line :: rest) ++ u =
        line ++ ⟨0x0A⟩ :: (ofLines rest ++ u) := by simp [ofLines_cons]
    rw [hsplit, cut_line hline, ih hrest, hsplit]

theorem cut_lineFeeds {s : Text} (h : ∀ r ∈ s, r.code = 0x0A) (w : Text) :
    (cut true (s ++ w)).2 = (cut true w).2 := by
  induction s with
  | nil => rfl
  | cons r rest ih =>
    obtain ⟨code⟩ := r
    obtain rfl : code = 0x0A := h _ List.mem_cons_self
    rw [List.cons_append, cut_lineFeed]
    exact ih fun x hx => h x (List.mem_cons_of_mem _ hx)

/-! ## What is cut out -/

/-- What stands before the first separator goes up to a line that starts with it, or to the end. -/
theorem cut_before (b : Bool) (s : Text) :
    ∃ w, s = (cut b s).1 ++ w ∧
      (w ≠ [] → startsLine b (cut b s).1 = true ∧ (separator? w).isSome = true) := by
  induction b, s using cut_induction with
  | nil b => exact ⟨[], by rw [cut_nil]; rfl, by simp⟩
  | separator a rest h ih => exact ⟨a ++ rest, by rw [cut_separator h]; rfl, fun _ => by
      rw [cut_separator h]
      exact ⟨rfl, by rw [h]; rfl⟩⟩
  | cons b r rest h ih =>
    obtain ⟨w, hw, hmore⟩ := ih
    rw [cut_cons h]
    exact ⟨w, by rw [List.cons_append, ← hw], hmore⟩

theorem cut_before_clear (b : Bool) (s : Text) : (cut b (cut b s).1).2 = [] := by
  induction b, s using cut_induction with
  | nil b => rw [cut_nil]; exact congrArg Prod.snd (cut_nil b)
  | separator a rest h ih => rw [cut_separator h]; exact congrArg Prod.snd (cut_nil true)
  | cons b r rest h ih =>
    obtain ⟨w, hw, hmore⟩ := cut_before (r.code == 0x0A) rest
    rw [cut_cons h]
    dsimp only
    rw [cut_cons, ih]
    intro hb
    have hnone := h hb
    rw [hw, ← List.cons_append] at hnone
    by_cases hempty : w = []
    · rwa [hempty, List.append_nil] at hnone
    · -- what follows starts a line, so it has no say in what stands before
      obtain ⟨hline, hsome⟩ := hmore hempty
      obtain ⟨a, ha⟩ := Option.isSome_iff_exists.1 hsome
      obtain ⟨v, rfl⟩ := slashes_of_separator? ha
      obtain ⟨t, ht⟩ := exists_of_startsLine (b := b) (s := r :: (cut (r.code == 0x0A) rest).1)
        hline (by simp)
      rw [ht] at hnone ⊢
      rw [List.append_assoc] at hnone
      rw [separator?_append_eq_none_iff (follows_lineFeed (by simp))]
      exact (separator?_append_eq_none_iff (follows_lineFeed (by rintro r ⟨⟩; rfl)) t).1 hnone

/-- An address, and below it a text without separators. -/
structure IsPiece (piece : Text × Text) : Prop where
  address : IsAddress piece.1
  lineFeed : ∀ r ∈ piece.2.head?, r.code = 0x0A
  clear : (cut false piece.2).2 = []

theorem head?_cut_false (s : Text) : (cut false s).1.head? = s.head? := by
  cases s with
  | nil => rw [cut_nil]
  | cons r rest => rw [cut_cons (by simp)]; rfl

theorem isPiece_of_mem_cut {b : Bool} {s : Text} (hreturn : ∀ r ∈ s, r.code ≠ 0x0D) :
    ∀ piece ∈ (cut b s).2, IsPiece piece := by
  induction b, s using cut_induction with
  | nil b => simp [cut_nil]
  | separator a rest h ih =>
    rw [cut_separator h]
    refine List.forall_mem_cons.2 ⟨?_, ih fun r hr => hreturn r (List.mem_append_right _ hr)⟩
    obtain ⟨after, hsplit, ha, hend⟩ := isSeparator_of_separator? h
    obtain rfl := List.append_cancel_left hsplit
    refine ⟨ha.isAddress fun r hr => hreturn r (List.mem_append_left _ hr), ?_,
      cut_before_clear false rest⟩
    rw [head?_cut_false]
    exact code_of_atLineEnd hend
  | cons b r rest h ih =>
    rw [cut_cons h]
    exact ih fun x hx => hreturn x (List.mem_cons_of_mem _ hx)

theorem subset_of_mem_cut {b : Bool} {s : Text} {piece : Text × Text} (h : piece ∈ (cut b s).2) :
    piece.1 ++ piece.2 ⊆ s := by
  intro r hr
  rw [← flatten_cut b s]
  exact List.mem_append_right _ (List.mem_flatMap.2 ⟨piece, h, hr⟩)

/-- Trimmed and on lines of its own, what stands below an address holds no separator. -/
theorem IsPiece.trim_clear {piece : Text × Text} (h : IsPiece piece)
    (hreturn : ∀ r ∈ piece.2, r.code ≠ 0x0D) :
    (cut true (Text.trim isLineBreak piece.2 ++ [⟨0x0A⟩])).2 = [] := by
  have hbreak : ∀ s : Text, s ⊆ piece.2 → ∀ r ∈ s, isLineBreak r = true → r.code = 0x0A := by
    intro s hs r hr hline
    simpa [isLineBreak, hreturn r (hs hr)] using hline
  -- behind the line feeds at its start the body begins on a line of its own
  have hstart : (cut true (piece.2.dropWhile isLineBreak)).2 = [] := by
    cases hbody : piece.2 with
    | nil => exact congrArg Prod.snd (cut_nil true)
    | cons r rest =>
      obtain ⟨code⟩ := r
      obtain rfl : code = 0x0A := h.lineFeed ⟨code⟩ (by rw [hbody]; rfl)
      have hclear := h.clear
      rw [hbody, cut_lineFeed] at hclear
      rw [List.dropWhile_cons_of_pos (by decide)]
      rw [← List.takeWhile_append_dropWhile (p := isLineBreak) (l := rest),
        cut_lineFeeds] at hclear
      · exact hclear
      · intro r hr
        exact hbreak rest (by rw [hbody]; exact List.subset_cons_self _ _) r
          ((List.takeWhile_prefix _).subset hr) (List.mem_takeWhile_imp hr)
  obtain ⟨feeds, hfeeds, hall⟩ := Text.exists_dropEndWhile isLineBreak
    (piece.2.dropWhile isLineBreak)
  have hfeed : ∀ r ∈ feeds, r.code = 0x0A := fun r hr => hbreak feeds
    (fun x hx => (List.dropWhile_suffix isLineBreak).subset (hfeeds ▸ List.mem_append_right _ hx))
    r hr (hall r hr)
  have hfollows : Follows feeds := by
    refine ⟨fun r hr => hfeed r (List.mem_of_mem_head? hr), ?_⟩
    rw [List.dropWhile_eq_nil_iff.2 fun r hr => isBlank_of_lineFeed (hfeed r hr)]
    simp
  rw [hfeeds] at hstart
  have hmiddle := cut_of_append hfollows hstart
  rw [Text.trim, cut_append (follows_lineFeed (by simp)) hmiddle, cut_lineFeed, cut_nil]

end Nomenclator.Listing

import Nomenclator.Pattern
import Nomenclator.Proofs.Listing.Cut

/-!
# The pattern of a separator

A separator spelled out as a pattern, whose repetitions give back what they took where the rest
does not match. It finds just what `separator?` finds without going back.
-/

namespace Nomenclator

/-- The position between two parts of a text. -/
def Position.between (before after : Text) : Position := ⟨before.length, before.reverse, after⟩

namespace Pattern

variable {α : Type} {p : Rune → Bool} {goOn : Position → Option α}

/-! ## Running patterns -/

theorem step?_between (before : Text) (r : Rune) (rest : Text) :
    (Position.between before (r :: rest)).step? = some (.between (before ++ [r]) rest) := by
  simp [Position.step?, Position.between]

theorem run_sequence_cons (pattern : Pattern) (rest : List Pattern) (q : Position) :
    (sequence (pattern :: rest)).run q goOn =
      pattern.run q fun q => (sequence rest).run q goOn := rfl

theorem run_sequence_nil (q : Position) : (sequence []).run q goOn = goOn q := rfl

theorem run_one_nil (before : Text) : (one p).run (.between before []) goOn = none := rfl

theorem run_one_cons (before : Text) (r : Rune) (rest : Text) :
    (one p).run (.between before (r :: rest)) goOn =
      if p r then goOn (.between (before ++ [r]) rest) else none := by
  unfold one run
  rw [step?_between]
  rfl

theorem run_text (t before after : Text) :
    (text t).run (.between before after) goOn =
      if t <+: after then goOn (.between (before ++ t) (after.drop t.length)) else none := by
  induction t generalizing before after with
  | nil => simp [text, run_sequence_nil]
  | cons r rest ih =>
    change (one (· == r)).run _ (fun q => (text rest).run q goOn) = _
    cases after with
    | nil => simp [run_one_nil]
    | cons first after =>
      rw [run_one_cons, ih]
      by_cases hfirst : first = r
      · subst hfirst
        simp
      · have hother : ¬r = first := fun h => hfirst h.symm
        simp [hfirst, hother]

theorem walk_reached (test : Position → Bool) (reached : List Position) (q : Position) (s : Text) :
    walk test reached q s = walk test [] q s ++ reached := by
  induction s generalizing reached q with
  | nil => rfl
  | cons r rest ih =>
    unfold walk
    split
    · rw [ih (q :: reached), ih [q]]
      simp
    · rfl

theorem run_zeroOrMore_stop {before after : Text} (h : ∀ r ∈ after.head?, p r = false) :
    (zeroOrMore p).run (.between before after) goOn = goOn (.between before after) := by
  cases after with
  | nil => simp [zeroOrMore, run, Position.between, walk]
  | cons r rest =>
    have hr : p r = false := h r rfl
    simp [zeroOrMore, run, Position.between, walk, Position.isBefore, hr]

theorem run_zeroOrMore_cons {r : Rune} (h : p r = true) (before rest : Text) :
    (zeroOrMore p).run (.between before (r :: rest)) goOn =
      ((zeroOrMore p).run (.between (before ++ [r]) rest) goOn <|>
        goOn (.between before (r :: rest))) := by
  have hnext : (⟨before.length + 1, r :: before.reverse, rest⟩ : Position) =
      .between (before ++ [r]) rest := by simp [Position.between]
  have hwalk : walk (Position.isBefore p) [] (.between before (r :: rest)) (r :: rest) =
      walk (Position.isBefore p) [] (.between (before ++ [r]) rest) rest ++
        [.between before (r :: rest)] := by
    rw [← walk_reached, ← hnext]
    simp [walk, Position.between, Position.isBefore, h]
  change (walk (Position.isBefore p) [] (.between before (r :: rest)) (r :: rest)).findSome?
    goOn = _
  rw [hwalk, List.findSome?_append, List.findSome?_singleton]
  exact Option.or_eq_orElse

/-- Nothing is given back where the rest cannot start with what the repetition takes. -/
theorem run_zeroOrMore (h : ∀ before r rest, p r = true → goOn (.between before (r :: rest)) = none)
    (before after : Text) :
    (zeroOrMore p).run (.between before after) goOn =
      goOn (.between (before ++ after.takeWhile p) (after.dropWhile p)) := by
  induction after generalizing before with
  | nil =>
    rw [run_zeroOrMore_stop (by simp)]
    simp
  | cons r rest ih =>
    by_cases hr : p r = true
    · rw [run_zeroOrMore_cons hr, ih, h before r rest hr]
      simp [hr]
    · rw [run_zeroOrMore_stop (by simpa using hr)]
      simp [hr]

theorem run_oneOrMore (h : ∀ before r rest, p r = true → goOn (.between before (r :: rest)) = none)
    (before after : Text) :
    (oneOrMore p).run (.between before after) goOn =
      if after.takeWhile p = [] then none
      else goOn (.between (before ++ after.takeWhile p) (after.dropWhile p)) := by
  change (one p).run _ (fun q => (zeroOrMore p).run q goOn) = _
  cases after with
  | nil => simp [run_one_nil]
  | cons r rest =>
    rw [run_one_cons, run_zeroOrMore h]
    by_cases hr : p r = true <;> simp [hr]

theorem run_optional_one_cons {r : Rune} (h : p r = true) (before rest : Text) :
    (optional (one p)).run (.between before (r :: rest)) goOn =
      (goOn (.between (before ++ [r]) rest) <|> goOn (.between before (r :: rest))) := by
  change ((one p).run _ goOn <|> goOn _) = _
  rw [run_one_cons, if_pos h]

theorem run_optional_one_stop {before after : Text} (h : ∀ r ∈ after.head?, p r = false) :
    (optional (one p)).run (.between before after) goOn = goOn (.between before after) := by
  change ((one p).run _ goOn <|> goOn _) = _
  cases after with
  | nil => simp [run_one_nil]
  | cons r rest =>
    have hr : p r = false := h r rfl
    simp [run_one_cons, hr]

end Pattern

/-! ## Ends -/

namespace Position

/-- The position before `rest`, which ends the text behind `before`. -/
def upTo (before s rest : Text) : Position :=
  .between (before ++ s.take (s.length - rest.length)) rest

theorem between_eq_upTo (before part rest : Text) :
    between (before ++ part) rest = upTo before (part ++ rest) rest := by
  simp [upTo]

theorem upTo_append {s rest : Text} (h : rest <:+ s) (before part : Text) :
    upTo (before ++ part) s rest = upTo before (part ++ s) rest := by
  obtain ⟨taken, rfl⟩ := h
  have hlength : (part ++ (taken ++ rest)).length - rest.length = (part ++ taken).length := by
    simp only [List.length_append]
    omega
  rw [upTo, upTo, hlength, ← List.append_assoc part, List.take_left]
  simp

end Position

namespace Listing

open Pattern

def isReturn (r : Rune) : Bool := r.code == 0x0D

def closingPattern : Pattern :=
  sequence [zeroOrMore isDash, zeroOrMore isSpaceOrTab, optional (one isReturn),
    here fun q => atLineEnd q.after]

/-- A line of two slashes, at least three dashes, a hexadecimal number in parentheses, and white
space, dashes and blanks behind it. -/
def separatorPattern : Pattern :=
  sequence [here Position.startsLine, text "//---", zeroOrMore isDash, zeroOrMore Rune.isBlank,
    text "(", oneOrMore Rune.isHexDigit, text ")", zeroOrMore Rune.isBlank, closingPattern]

/-! ## What closes a separator -/

/-- What is left behind dashes, blanks and one carriage return. -/
def closed (s : Text) : Text := dropReturn ((s.dropWhile isDash).dropWhile isSpaceOrTab)

theorem atLineEnd_cons {r : Rune} (rest : Text) (h : r.code ≠ 0x0A) :
    atLineEnd (r :: rest) = false := by
  simp [atLineEnd, h]

theorem dropReturn_cons {r : Rune} (h : r ≠ ⟨0x0D⟩) (rest : Text) :
    dropReturn (r :: rest) = r :: rest := by
  unfold dropReturn
  split
  · next heq =>
    injection heq with heq
    exact absurd heq h
  · rfl

theorem run_lineEnd {α : Type} (goOn : Position → Option α) (before after : Text) :
    (here fun q => atLineEnd q.after).run (.between before after) goOn =
      if atLineEnd after then goOn (.between before after) else none := rfl

theorem run_return (before s : Text) :
    (sequence [optional (one isReturn), here fun q => atLineEnd q.after]).run
      (.between before s) some =
        if atLineEnd (dropReturn s) then some (.upTo before s (dropReturn s)) else none := by
  simp only [run_sequence_cons, run_sequence_nil]
  cases s with
  | nil =>
    rw [run_optional_one_stop (by simp), run_lineEnd]
    simp [dropReturn, Position.upTo]
  | cons r rest =>
    by_cases hr : r = ⟨0x0D⟩
    · subst hr
      have hdrop : dropReturn (⟨0x0D⟩ :: rest) = rest := rfl
      have hopen : atLineEnd (⟨0x0D⟩ :: rest) = false := atLineEnd_cons rest (by decide)
      rw [run_optional_one_cons rfl, hdrop, run_lineEnd, run_lineEnd, hopen,
        Position.between_eq_upTo, List.singleton_append]
      by_cases hrest : atLineEnd rest = true <;> simp [hrest]
    · have hcode : isReturn r = false := by
        obtain ⟨code⟩ := r
        simpa [isReturn] using hr
      rw [run_optional_one_stop (by simpa using hcode), dropReturn_cons hr, run_lineEnd]
      simp [Position.upTo]

theorem run_return_of_mark {r : Rune} (hfeed : r.code ≠ 0x0A) (hreturn : r.code ≠ 0x0D)
    (before rest : Text) :
    (sequence [optional (one isReturn), here fun q => atLineEnd q.after]).run
      (.between before (r :: rest)) some = none := by
  have hr : r ≠ ⟨0x0D⟩ := fun h => hreturn (congrArg Rune.code h)
  rw [run_return, dropReturn_cons hr, atLineEnd_cons rest hfeed]
  rfl

theorem run_closingPattern (before s : Text) :
    closingPattern.run (.between before s) some =
      if atLineEnd (closed s) then some (.upTo before s (closed s)) else none := by
  have hspaces (before s : Text) :
      (zeroOrMore isSpaceOrTab).run (.between before s) (fun q =>
        (sequence [optional (one isReturn), here fun q => atLineEnd q.after]).run q some) =
          (sequence [optional (one isReturn), here fun q => atLineEnd q.after]).run
            (.between (before ++ s.takeWhile isSpaceOrTab) (s.dropWhile isSpaceOrTab)) some := by
    refine run_zeroOrMore (fun before r rest hr => ?_) before s
    simp only [isSpaceOrTab, Bool.or_eq_true, beq_iff_eq] at hr
    exact run_return_of_mark (by omega) (by omega) before rest
  have hdashes : ∀ (before : Text) (r : Rune) (rest : Text), isDash r = true →
      (zeroOrMore isSpaceOrTab).run (.between before (r :: rest)) (fun q =>
        (sequence [optional (one isReturn), here fun q => atLineEnd q.after]).run q some) =
          none := by
    intro before r rest hr
    have hspace : isSpaceOrTab r = false := by
      by_contra hspace
      rw [isDash_of_isBlank (isBlank_of_isSpaceOrTab (by simpa using hspace))] at hr
      exact Bool.noConfusion hr
    simp only [isDash, beq_iff_eq] at hr
    rw [run_zeroOrMore_stop (by simpa using hspace)]
    exact run_return_of_mark (by omega) (by omega) before rest
  have hsplit : s.takeWhile isDash ++ ((s.dropWhile isDash).takeWhile isSpaceOrTab ++
      (s.dropWhile isDash).dropWhile isSpaceOrTab) = s := by
    rw [List.takeWhile_append_dropWhile, List.takeWhile_append_dropWhile]
  unfold closingPattern
  rw [run_sequence_cons]
  simp only [run_sequence_cons (zeroOrMore isSpaceOrTab)]
  rw [run_zeroOrMore hdashes, hspaces, run_return, Position.upTo_append (dropReturn_suffix _),
    Position.upTo_append ((dropReturn_suffix _).trans (List.suffix_append _ _)), hsplit]
  rfl

/-! ## White space that is given back -/

/-- The last line feed of some white space, from where it stands on. -/
def lastFeed? (blanks rest : Text) : Option Text :=
  let tail := (blanks.reverse.takeWhile fun r => r.code != 0x0A).length
  if tail < blanks.length then some ((blanks ++ rest).drop (blanks.length - tail - 1)) else none

theorem separatorEnd?_eq (s : Text) :
    separatorEnd? s =
      if atLineEnd (closed (s.dropWhile Rune.isBlank)) then
        some (closed (s.dropWhile Rune.isBlank))
      else lastFeed? (s.takeWhile Rune.isBlank) (s.dropWhile Rune.isBlank) := by
  unfold lastFeed?
  rw [List.takeWhile_append_dropWhile]
  rfl

theorem lastFeed?_eq_none {blanks : Text} (h : ∀ r ∈ blanks, r.code ≠ 0x0A) (rest : Text) :
    lastFeed? blanks rest = none := by
  unfold lastFeed?
  dsimp only
  rw [if_neg]
  rw [takeWhile_reverse_lt_iff]
  simpa using h

theorem lastFeed?_cons_of_mem {blanks : Text} (h : ∃ r ∈ blanks, r.code = 0x0A) (r : Rune)
    (rest : Text) : lastFeed? (r :: blanks) rest = lastFeed? blanks rest := by
  have hlast : (blanks.reverse.takeWhile fun r => r.code != 0x0A).length < blanks.length :=
    takeWhile_reverse_lt_iff.2 (by simpa using h)
  have hsame : (r :: blanks).reverse.takeWhile (fun r => r.code != 0x0A) =
      blanks.reverse.takeWhile fun r => r.code != 0x0A := by
    rw [List.reverse_cons, List.takeWhile_append, if_neg]
    rw [List.length_reverse]
    exact hlast.ne
  unfold lastFeed?
  dsimp only
  rw [hsame, if_pos hlast, if_pos (by rw [List.length_cons]; omega), List.length_cons,
    List.cons_append]
  rw [show blanks.length + 1 - (blanks.reverse.takeWhile fun r => r.code != 0x0A).length - 1 =
    blanks.length - (blanks.reverse.takeWhile fun r => r.code != 0x0A).length - 1 + 1 by omega]
  rfl

theorem lastFeed?_cons_feed {blanks : Text} (h : ∀ r ∈ blanks, r.code ≠ 0x0A) (rest : Text) :
    lastFeed? (⟨0x0A⟩ :: blanks) rest = some (⟨0x0A⟩ :: blanks ++ rest) := by
  have hall : (⟨0x0A⟩ :: blanks : Text).reverse.takeWhile (fun r => r.code != 0x0A) =
      blanks.reverse := by
    rw [List.reverse_cons, Text.takeWhile_append_of_all]
    · simpa using h
    · simp
  unfold lastFeed?
  dsimp only
  rw [hall]
  simp

/-- Behind white space without a line feed, a line ends only where it ends behind all of it. -/
theorem atLineEnd_closed_of_blank {r : Rune} {s : Text} (hr : r.isBlank = true)
    (hfeed : ∀ x ∈ r :: s.takeWhile Rune.isBlank, x.code ≠ 0x0A)
    (h : atLineEnd (closed (r :: s)) = true) : s.dropWhile Rune.isBlank = [] := by
  have hdash : (r :: s).dropWhile isDash = r :: s := by
    rw [List.dropWhile_cons_of_neg (by simp [isDash_of_isBlank hr])]
  obtain ⟨ending, hending, hreturn⟩ := exists_dropReturn ((r :: s).dropWhile isSpaceOrTab)
  have hclosed : closed (r :: s) = dropReturn ((r :: s).dropWhile isSpaceOrTab) := by
    rw [closed, hdash]
  have hsplit : r :: s = (r :: s).takeWhile isSpaceOrTab ++ ending ++ closed (r :: s) := by
    rw [hclosed, List.append_assoc, ← hending, List.takeWhile_append_dropWhile]
  have hblank : ∀ x ∈ (r :: s).takeWhile isSpaceOrTab ++ ending, x.isBlank = true := by
    simp only [List.forall_mem_append]
    refine ⟨fun x hx => isBlank_of_isSpaceOrTab (List.mem_takeWhile_imp hx), fun x hx => ?_⟩
    obtain rfl | rfl := hreturn
    · simp at hx
    · obtain rfl := List.mem_singleton.1 hx
      decide
  have htake : (r :: s).takeWhile Rune.isBlank = r :: s.takeWhile Rune.isBlank :=
    List.takeWhile_cons_of_pos hr
  have hdrop : (r :: s).dropWhile Rune.isBlank = s.dropWhile Rune.isBlank :=
    List.dropWhile_cons_of_pos hr
  cases hrest : closed (r :: s) with
  | nil =>
    rw [hrest, List.append_nil] at hsplit
    rw [← hdrop, List.dropWhile_eq_nil_iff]
    rw [← hsplit] at hblank
    exact hblank
  | cons x rest =>
    -- the line feed belongs to the white space
    have hx : x.code = 0x0A := code_of_atLineEnd h x (by rw [hrest]; rfl)
    refine absurd hx (hfeed x ?_)
    rw [← htake, hsplit, hrest, List.takeWhile_append_of_pos hblank,
      List.takeWhile_cons_of_pos (isBlank_of_lineFeed hx)]
    exact List.mem_append_right _ List.mem_cons_self

theorem separatorEnd?_cons {r : Rune} (hr : r.isBlank = true) (s : Text) :
    separatorEnd? (r :: s) =
      (separatorEnd? s <|>
        if atLineEnd (closed (r :: s)) then some (closed (r :: s)) else none) := by
  rw [separatorEnd?_eq, separatorEnd?_eq, List.dropWhile_cons_of_pos hr,
    List.takeWhile_cons_of_pos hr]
  by_cases hclosed : atLineEnd (closed (s.dropWhile Rune.isBlank)) = true
  · rw [if_pos hclosed, if_pos hclosed]
    rfl
  · rw [if_neg hclosed, if_neg hclosed]
    by_cases hsome : ∃ x ∈ s.takeWhile Rune.isBlank, x.code = 0x0A
    · rw [lastFeed?_cons_of_mem hsome]
      have hlast : (lastFeed? (s.takeWhile Rune.isBlank) (s.dropWhile Rune.isBlank)).isSome := by
        unfold lastFeed?
        dsimp only
        rw [if_pos (takeWhile_reverse_lt_iff.2 (by simpa using hsome))]
        rfl
      obtain ⟨rest, hrest⟩ := Option.isSome_iff_exists.1 hlast
      rw [hrest]
      rfl
    · have hnone : ∀ x ∈ s.takeWhile Rune.isBlank, x.code ≠ 0x0A := by simpa using hsome
      rw [lastFeed?_eq_none hnone]
      by_cases hfeed : r.code = 0x0A
      · obtain ⟨code⟩ := r
        obtain rfl : code = 0x0A := hfeed
        have hline : closed (⟨0x0A⟩ :: s) = ⟨0x0A⟩ :: s := by
          simp [closed, isDash, isSpaceOrTab, dropReturn]
        rw [lastFeed?_cons_feed hnone, List.cons_append, List.takeWhile_append_dropWhile, hline]
        rfl
      · have hall : ∀ x ∈ r :: s.takeWhile Rune.isBlank, x.code ≠ 0x0A :=
          List.forall_mem_cons.2 ⟨hfeed, hnone⟩
        rw [lastFeed?_eq_none hall, if_neg]
        · rfl
        · intro hline
          rw [atLineEnd_closed_of_blank hr hall hline] at hclosed
          exact hclosed rfl

theorem run_separatorEnd (before s : Text) :
    (zeroOrMore Rune.isBlank).run (.between before s) (fun q => closingPattern.run q some) =
      (separatorEnd? s).map (.upTo before s) := by
  induction s generalizing before with
  | nil =>
    rw [run_zeroOrMore_stop (by simp), run_closingPattern]
    rfl
  | cons r rest ih =>
    by_cases hr : r.isBlank = true
    · rw [run_zeroOrMore_cons hr, ih, run_closingPattern, separatorEnd?_cons hr]
      cases hrest : separatorEnd? rest with
      | none => split <;> rfl
      | some left =>
        have hsame := Position.upTo_append (suffix_of_separatorEnd? hrest) before [r]
        simpa using hsame
    · have hstop : separatorEnd? (r :: rest) =
          if atLineEnd (closed (r :: rest)) then some (closed (r :: rest)) else none := by
        rw [separatorEnd?_eq, List.dropWhile_cons_of_neg hr, List.takeWhile_cons_of_neg hr]
        rfl
      rw [run_zeroOrMore_stop (by simpa using hr), run_closingPattern, hstop]
      split <;> rfl

/-! ## The address -/

theorem run_mark {α : Type} (goOn : Position → Option α) (mark : Rune) (before s : Text) :
    (text [mark]).run (.between before s) goOn =
      if s.head? = some mark then goOn (.between (before ++ [mark]) s.tail) else none := by
  rw [run_text]
  cases s with
  | nil => rfl
  | cons r rest =>
    by_cases hr : r = mark
    · subst hr
      simp
    · have hother : ¬mark = r := fun h => hr h.symm
      simp [hr, hother]

theorem map_upTo_append {found : Option Text} {s : Text} (h : ∀ rest ∈ found, rest <:+ s)
    (before part : Text) :
    found.map (Position.upTo (before ++ part) s) =
      found.map (Position.upTo before (part ++ s)) := by
  cases found with
  | none => rfl
  | some rest => exact congrArg some (Position.upTo_append (h rest rfl) before part)

theorem suffix_of_afterDigits? {s rest : Text} (h : afterDigits? s = some rest) : rest <:+ s := by
  unfold afterDigits? at h
  split at h
  · exact (suffix_of_separatorEnd? h).trans (List.suffix_cons _ _)
  · simp at h

theorem suffix_of_afterOpening? {s rest : Text} (h : afterOpening? s = some rest) : rest <:+ s := by
  obtain ⟨digits, tail, rfl, -, hend⟩ := exists_of_afterOpening? h
  exact (suffix_of_separatorEnd? hend).trans ((List.suffix_cons _ _).trans (List.suffix_append _ _))

theorem run_afterDigits (before s : Text) :
    (sequence [text ")", zeroOrMore Rune.isBlank, closingPattern]).run (.between before s) some =
      (afterDigits? s).map (.upTo before s) := by
  simp only [run_sequence_cons, run_sequence_nil]
  change (text [⟨0x29⟩]).run _ _ = _
  rw [run_mark]
  split
  · next hhead =>
    obtain ⟨rest, rfl⟩ := List.head?_eq_some_iff.1 hhead
    exact (run_separatorEnd _ rest).trans
      (map_upTo_append (fun _ => suffix_of_separatorEnd?) before [⟨0x29⟩])
  · next hhead =>
    rw [afterDigits?_of_head]
    · rfl
    · rintro r hr rfl
      exact hhead hr

theorem run_afterOpening (before s : Text) :
    (sequence [text "(", oneOrMore Rune.isHexDigit, text ")", zeroOrMore Rune.isBlank,
      closingPattern]).run (.between before s) some =
        (afterOpening? s).map (.upTo before s) := by
  have hdigit : ∀ (before : Text) (r : Rune) (rest : Text), r.isHexDigit = true →
      (sequence [text ")", zeroOrMore Rune.isBlank, closingPattern]).run
        (.between before (r :: rest)) some = none := by
    intro before r rest hr
    rw [run_afterDigits, afterDigits?_of_head]
    · rfl
    · rintro r' ⟨⟩ rfl
      exact Bool.noConfusion hr
  rw [run_sequence_cons]
  change (text [⟨0x28⟩]).run _ _ = _
  rw [run_mark]
  split
  · next hhead =>
    obtain ⟨rest, rfl⟩ := List.head?_eq_some_iff.1 hhead
    rw [List.tail_cons, run_sequence_cons, run_oneOrMore hdigit, afterOpening?_open]
    by_cases hnone : rest.takeWhile Rune.isHexDigit = []
    · simp [hnone]
    · rw [if_neg hnone, if_neg (by simpa using hnone), run_afterDigits,
        map_upTo_append (fun _ => suffix_of_afterDigits?), List.takeWhile_append_dropWhile,
        map_upTo_append fun left hleft =>
          (suffix_of_afterDigits? hleft).trans (List.dropWhile_suffix _)]
      rfl
  · next hhead =>
    rw [afterOpening?_of_head]
    · rfl
    · rintro r hr rfl
      exact hhead hr

/-! ## The separator -/

theorem startsLine_between (before after : Text) :
    Position.startsLine (.between before after) = startsLine true before := by
  rcases List.eq_nil_or_concat before with rfl | ⟨t, r, rfl⟩
  · rfl
  · have hlast : startsLine (startsLine true t) [r] = (r.code == 0x0A) := rfl
    rw [List.concat_eq_append, startsLine_append, hlast]
    unfold Position.startsLine Position.between
    rw [List.reverse_append]
    rfl

theorem dashes_prefix_iff (s : Text) :
    [⟨0x2D⟩, ⟨0x2D⟩, ⟨0x2D⟩] <+: s ↔ ¬(s.takeWhile isDash).length < 3 := by
  constructor
  · rintro ⟨rest, rfl⟩
    rw [List.takeWhile_append_of_pos (by decide), List.length_append]
    simp
  · intro hlong
    have hall : ∀ r ∈ s.takeWhile isDash, r = ⟨0x2D⟩ := by
      intro r hr
      obtain ⟨code⟩ := r
      have hdash := List.mem_takeWhile_imp hr
      simp only [isDash, beq_iff_eq] at hdash
      rw [hdash]
    have hsame := List.eq_replicate_of_mem hall
    refine List.IsPrefix.trans ⟨List.replicate ((s.takeWhile isDash).length - 3) ⟨0x2D⟩, ?_⟩
      (List.takeWhile_prefix isDash)
    rw [hsame]
    change List.replicate 3 _ ++ _ = _
    rw [List.replicate_append_replicate, List.length_replicate]
    congr
    omega

theorem run_afterOpening_of_head {r : Rune} (h : r ≠ ⟨0x28⟩) (before rest : Text) :
    (sequence [text "(", oneOrMore Rune.isHexDigit, text ")", zeroOrMore Rune.isBlank,
      closingPattern]).run (.between before (r :: rest)) some = none := by
  rw [run_afterOpening, afterOpening?_of_head]
  · rfl
  · rintro r' ⟨⟩
    exact h

theorem run_afterDashes (before s : Text) :
    (sequence [zeroOrMore isDash, zeroOrMore Rune.isBlank, text "(", oneOrMore Rune.isHexDigit,
      text ")", zeroOrMore Rune.isBlank, closingPattern]).run (.between before s) some =
        (afterOpening? ((s.dropWhile isDash).dropWhile Rune.isBlank)).map (.upTo before s) := by
  have hblank : ∀ (before : Text) (r : Rune) (rest : Text), r.isBlank = true →
      (sequence [text "(", oneOrMore Rune.isHexDigit, text ")", zeroOrMore Rune.isBlank,
        closingPattern]).run (.between before (r :: rest)) some = none := by
    intro before r rest hr
    refine run_afterOpening_of_head ?_ before rest
    rintro rfl
    exact absurd hr (by decide)
  have hdash : ∀ (before : Text) (r : Rune) (rest : Text), isDash r = true →
      (sequence [zeroOrMore Rune.isBlank, text "(", oneOrMore Rune.isHexDigit, text ")",
        zeroOrMore Rune.isBlank, closingPattern]).run (.between before (r :: rest)) some =
          none := by
    intro before r rest hr
    rw [run_sequence_cons, run_zeroOrMore_stop (by simpa using isBlank_of_isDash hr)]
    refine run_afterOpening_of_head ?_ before rest
    rintro rfl
    exact absurd hr (by decide)
  have hsplit : s.takeWhile isDash ++ ((s.dropWhile isDash).takeWhile Rune.isBlank ++
      (s.dropWhile isDash).dropWhile Rune.isBlank) = s := by
    rw [List.takeWhile_append_dropWhile, List.takeWhile_append_dropWhile]
  rw [run_sequence_cons, run_zeroOrMore hdash, run_sequence_cons, run_zeroOrMore hblank,
    run_afterOpening, map_upTo_append fun _ => suffix_of_afterOpening?,
    map_upTo_append fun left hleft =>
      (suffix_of_afterOpening? hleft).trans (List.suffix_append _ _), hsplit]

theorem run_afterSlashes (before s : Text) :
    (sequence [text "//---", zeroOrMore isDash, zeroOrMore Rune.isBlank, text "(",
      oneOrMore Rune.isHexDigit, text ")", zeroOrMore Rune.isBlank, closingPattern]).run
        (.between before s) some = (afterSeparator? s).map (.upTo before s) := by
  have hmarks : Text.ofString "//---" = [⟨0x2F⟩, ⟨0x2F⟩] ++ [⟨0x2D⟩, ⟨0x2D⟩, ⟨0x2D⟩] := rfl
  rw [run_sequence_cons, run_text, hmarks]
  by_cases hslashes : [⟨0x2F⟩, ⟨0x2F⟩] <+: s
  · obtain ⟨t, rfl⟩ := hslashes
    change _ = (afterSeparator? (⟨0x2F⟩ :: ⟨0x2F⟩ :: t)).map _
    rw [afterSeparator?_slashes]
    by_cases hlong : [⟨0x2D⟩, ⟨0x2D⟩, ⟨0x2D⟩] <+: t
    · rw [if_pos ((List.prefix_append_right_inj _).2 hlong), if_neg ((dashes_prefix_iff t).1 hlong)]
      obtain ⟨rest, rfl⟩ := hlong
      have hdrop : ([⟨0x2D⟩, ⟨0x2D⟩, ⟨0x2D⟩] ++ rest : Text).dropWhile isDash =
          rest.dropWhile isDash := List.dropWhile_append_of_pos (by decide)
      rw [hdrop, ← List.append_assoc ([⟨0x2F⟩, ⟨0x2F⟩] : Text), List.drop_left, run_afterDashes,
        map_upTo_append fun left hleft => (suffix_of_afterOpening? hleft).trans
          ((List.dropWhile_suffix _).trans (List.dropWhile_suffix _))]
    · rw [if_neg fun h => hlong ((List.prefix_append_right_inj _).1 h),
        if_pos (by simpa using mt (dashes_prefix_iff t).2 hlong)]
      rfl
  · have hshort : ¬[⟨0x2F⟩, ⟨0x2F⟩] ++ [⟨0x2D⟩, ⟨0x2D⟩, ⟨0x2D⟩] <+: s := fun h =>
      hslashes ((List.prefix_append _ _).trans h)
    rw [if_neg hshort, afterSeparator?_of_not_slashes hslashes]
    rfl

theorem run_separatorPattern (before s : Text) :
    separatorPattern.run (.between before s) some =
      if startsLine true before then
        (separator? s).map fun a => .between (before ++ a) (s.drop a.length)
      else none := by
  have hstart : separatorPattern.run (.between before s) some =
      if Position.startsLine (.between before s) then
        (sequence [text "//---", zeroOrMore isDash, zeroOrMore Rune.isBlank, text "(",
          oneOrMore Rune.isHexDigit, text ")", zeroOrMore Rune.isBlank, closingPattern]).run
            (.between before s) some
      else none := rfl
  rw [hstart, startsLine_between, run_afterSlashes, separator?, Option.map_map]
  cases hrest : afterSeparator? s with
  | none => rfl
  | some rest =>
    obtain ⟨taken, rfl⟩ := suffix_of_afterSeparator? hrest
    simp [Position.upTo]

end Listing

end Nomenclator

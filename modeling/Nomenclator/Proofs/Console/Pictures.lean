import Nomenclator.Proofs.Console.Plain

/-!
# Pictures in place of names

Text without names of pictures is left as it is. A picture takes the place of its name and of the
colons around it, and there is no colon in it, so where a picture is put in, colons are lost.
-/

namespace Nomenclator.Console.Picture

/-! ## Names -/

/-- The names between colons that are looked up in a text. -/
def names (s : Text) : List Text :=
  match s with
  | [] => []
  | r :: rest =>
    if r = colon then
      match reference? rest with
      | some (name, _, n) => name :: names (rest.drop n)
      | none => names rest
    else names rest
termination_by s.length
decreasing_by all_goals simp only [List.length_drop, List.length_cons]; omega

theorem ofName?_ne_none {name : Text} {line : String} (hline : line ∈ entries)
    (h : ((Text.piecesAt ⟨0x20⟩ (Text.ofString line)).findSome?
      (inEntry (name.map lowerRune))).isSome) : ofName? name ≠ none := by
  rw [← Option.isSome_iff_ne_none, ofName?, List.findSome?_isSome_iff]
  exact ⟨line, hline, h⟩

/-! ## The table of names -/

theorem spelled_cons {lines : List String} {ls : List (List Char)} {l : List Char}
    (h : lines = ls.map String.ofList) :
    String.ofList l :: lines = (l :: ls).map String.ofList := by
  rw [h, List.map_cons]

theorem spelled_append {s t : List String} {ls ms : List (List Char)}
    (hs : s = ls.map String.ofList) (ht : t = ms.map String.ofList) :
    s ++ t = (ls ++ ms).map String.ofList := by
  rw [hs, ht, List.map_append]

/-- Reads the entries of a line; `value` is that of the code so far, if one has begun. -/
def noColonFrom (value : Option Nat) : List Char → Bool
  | [] => value != some 0x3A
  | c :: rest =>
    match value with
    | none => noColonFrom (if c.toNat = 0x3A then some 0 else none) rest
    | some n =>
      if c.toNat = 0x20 then n != 0x3A && noColonFrom none rest
      else if c.toNat = 0x2D then n != 0x3A && noColonFrom (some 0) rest
      else noColonFrom (some (n * 16 + (Rune.ofChar c).hexValue?.getD 0)) rest

theorem exists_spelled :
    ∃ ls : List (List Char), entries = ls.map String.ofList ∧ ls.all (noColonFrom none) = true := by
  -- spelling out the characters once spares the kernel the unpacking of each string
  apply Exists.intro
  apply And.intro
  · unfold entries onOther onA onB onC onD onE onF onG onH onI onJ onK onL onM onN onO onP onQ onR
      onS onT onU onV onW onX onY onZ
    repeat first | apply spelled_append | apply spelled_cons | exact List.map_nil.symm
  · decide +kernel

/-! ## Reading an entry -/

/-- The number of a code after a beginning of that value. -/
def hexNumberFrom (value : Nat) (code : Text) : Nat :=
  code.foldl (fun n d => n * 16 + d.hexValue?.getD 0) value

/-- No code is that of a colon; the first goes on from one of that value. -/
def CodesAvoidColon (value : Nat) (codes : Text) : Prop :=
  ∀ code rest, Text.piecesAt ⟨0x2D⟩ codes = code :: rest →
    hexNumberFrom value code ≠ 0x3A ∧ ∀ other ∈ rest, hexNumber other ≠ 0x3A

def EntryAvoidsColon (entry : Text) : Prop :=
  ∀ name codes, Text.cutAt? colon entry = some (name, codes) → CodesAvoidColon 0 codes

theorem exists_piecesAt (sep : Rune) (t : Text) :
    ∃ piece pieces, Text.piecesAt sep t = piece :: pieces := by
  cases t with
  | nil => exact ⟨[], [], rfl⟩
  | cons r rest =>
    unfold Text.piecesAt
    split
    · exact ⟨_, _, rfl⟩
    · split <;> exact ⟨_, _, rfl⟩

theorem piecesAt_cons {sep r : Rune} {rest piece : Text} {pieces : List Text} (h : r ≠ sep)
    (hrest : Text.piecesAt sep rest = piece :: pieces) :
    Text.piecesAt sep (r :: rest) = (r :: piece) :: pieces := by
  rw [Text.piecesAt, if_neg h, hrest]

theorem codesAvoidColon_nil {value : Nat} (h : value ≠ 0x3A) : CodesAvoidColon value [] := by
  rintro code rest ⟨⟩
  exact ⟨h, by simp⟩

theorem codesAvoidColon_dash {value : Nat} {codes : Text} (hvalue : value ≠ 0x3A)
    (h : CodesAvoidColon 0 codes) : CodesAvoidColon value (⟨0x2D⟩ :: codes) := by
  obtain ⟨code, rest, hcodes⟩ := exists_piecesAt ⟨0x2D⟩ codes
  rintro first others hfirst
  rw [Text.piecesAt, if_pos rfl, hcodes] at hfirst
  obtain ⟨rfl, rfl⟩ := List.cons.inj hfirst
  exact ⟨hvalue, List.forall_mem_cons.2 (h code rest hcodes)⟩

theorem codesAvoidColon_cons {value : Nat} {r : Rune} (hr : r ≠ ⟨0x2D⟩) {codes : Text}
    (h : CodesAvoidColon (value * 16 + r.hexValue?.getD 0) codes) :
    CodesAvoidColon value (r :: codes) := by
  obtain ⟨code, rest, hcodes⟩ := exists_piecesAt ⟨0x2D⟩ codes
  rintro first others hfirst
  rw [piecesAt_cons hr hcodes] at hfirst
  obtain ⟨rfl, rfl⟩ := List.cons.inj hfirst
  exact h code rest hcodes

theorem entryAvoidsColon_colon {entry : Text} (h : CodesAvoidColon 0 entry) :
    EntryAvoidsColon (colon :: entry) := by
  rintro name codes hcut
  rw [Text.cutAt?, if_pos rfl] at hcut
  cases hcut
  exact h

theorem entryAvoidsColon_cons {r : Rune} (hr : r ≠ colon) {entry : Text}
    (h : EntryAvoidsColon entry) : EntryAvoidsColon (r :: entry) := by
  rintro name codes hcut
  rw [Text.cutAt?, if_neg hr] at hcut
  obtain ⟨⟨name', codes'⟩, hrest, hparts⟩ := Option.map_eq_some_iff.1 hcut
  cases hparts
  exact h name' codes' hrest

theorem ofChar_eq_iff {c : Char} {n : Nat} : Rune.ofChar c = ⟨n⟩ ↔ c.toNat = n := by
  simp [Rune.ofChar]

theorem noColonFrom_spec (l : List Char) :
    (noColonFrom none l = true →
      ∀ entry ∈ Text.piecesAt ⟨0x20⟩ (l.map Rune.ofChar), EntryAvoidsColon entry) ∧
    ∀ n, noColonFrom (some n) l = true →
      ∃ codes rest, Text.piecesAt ⟨0x20⟩ (l.map Rune.ofChar) = codes :: rest ∧
        CodesAvoidColon n codes ∧ ∀ entry ∈ rest, EntryAvoidsColon entry := by
  have hnil : EntryAvoidsColon [] := by simp [EntryAvoidsColon, Text.cutAt?]
  -- both states of the reading go through the induction together: a colon leaves the name for the
  -- codes, and a space the codes for the next name
  induction l with
  | nil =>
    refine ⟨fun _ => by simpa [Text.piecesAt] using hnil, fun n h => ?_⟩
    exact ⟨[], [], rfl, codesAvoidColon_nil (by simpa [noColonFrom] using h), by simp⟩
  | cons c rest ih =>
    obtain ⟨hname, hcode⟩ := ih
    rw [List.map_cons]
    constructor
    · intro h
      rw [noColonFrom] at h
      split at h
      · next hcolon =>
        -- a code begins
        obtain ⟨codes, others, hpieces, hcodes, hothers⟩ := hcode 0 h
        rw [show Rune.ofChar c = colon from ofChar_eq_iff.2 hcolon,
          piecesAt_cons (by decide) hpieces]
        exact List.forall_mem_cons.2 ⟨entryAvoidsColon_colon hcodes, hothers⟩
      · next hcolon =>
        have hrest := hname h
        have hne : Rune.ofChar c ≠ colon := mt ofChar_eq_iff.1 hcolon
        by_cases hblank : Rune.ofChar c = ⟨0x20⟩
        · rw [Text.piecesAt, if_pos hblank]
          exact List.forall_mem_cons.2 ⟨hnil, hrest⟩
        · obtain ⟨entry, others, hpieces⟩ := exists_piecesAt ⟨0x20⟩ (rest.map Rune.ofChar)
          rw [hpieces] at hrest
          obtain ⟨hentry, hothers⟩ := List.forall_mem_cons.1 hrest
          rw [piecesAt_cons hblank hpieces]
          exact List.forall_mem_cons.2 ⟨entryAvoidsColon_cons hne hentry, hothers⟩
    · intro n h
      rw [noColonFrom] at h
      split at h
      · next hblank =>
        simp only [Bool.and_eq_true, bne_iff_ne] at h
        refine ⟨[], _, ?_, codesAvoidColon_nil h.1, hname h.2⟩
        rw [Text.piecesAt, if_pos (ofChar_eq_iff.2 hblank)]
      · next hblank =>
        have hne : Rune.ofChar c ≠ ⟨0x20⟩ := mt ofChar_eq_iff.1 hblank
        split at h
        · next hdash =>
          simp only [Bool.and_eq_true, bne_iff_ne] at h
          obtain ⟨codes, others, hpieces, hcodes, hothers⟩ := hcode 0 h.2
          refine ⟨_, _, piecesAt_cons hne hpieces, ?_, hothers⟩
          exact ofChar_eq_iff.2 hdash ▸ codesAvoidColon_dash h.1 hcodes
        · next hdash =>
          obtain ⟨codes, others, hpieces, hcodes, hothers⟩ := hcode _ h
          refine ⟨_, _, piecesAt_cons hne hpieces, codesAvoidColon_cons ?_ hcodes, hothers⟩
          exact mt ofChar_eq_iff.1 hdash

theorem colon_not_mem_of_ofName? {name picture : Text} (h : ofName? name = some picture) :
    colon ∉ picture := by
  unfold ofName? at h
  obtain ⟨line, hline, h⟩ := List.exists_of_findSome?_eq_some h
  obtain ⟨entry, hentry, hfound⟩ := List.exists_of_findSome?_eq_some h
  obtain ⟨ls, hls, hall⟩ := exists_spelled
  rw [hls] at hline
  obtain ⟨l, hl, rfl⟩ := List.mem_map.1 hline
  rw [Text.ofString, String.toList_ofList] at hentry
  have havoids := (noColonFrom_spec l).1 (List.all_eq_true.1 hall l hl) entry hentry
  unfold inEntry at hfound
  split at hfound
  · next entryName codes hcut =>
    split at hfound
    · cases hfound
      intro hmem
      obtain ⟨code, hcode, hnumber⟩ := List.mem_map.1 hmem
      obtain ⟨first, rest, hcodes⟩ := exists_piecesAt ⟨0x2D⟩ codes
      have hnone : ∀ code ∈ first :: rest, hexNumber code ≠ 0x3A :=
        List.forall_mem_cons.2 (havoids entryName codes hcut first rest hcodes)
      rw [← hcodes] at hnone
      exact hnone code hcode (congrArg Rune.code hnumber)
    · cases hfound
  · cases hfound

/-! ## Text with its names replaced -/

theorem replaceNames_of_unknown {s : Text} (h : ∀ name ∈ names s, ofName? name = none) :
    replaceNames s = s := by
  fun_induction names s with
  | case1 => rw [replaceNames]
  | case2 rest name style n hreference ih =>
    obtain ⟨hname, hrest⟩ := List.forall_mem_cons.1 h
    rw [replaceNames, if_pos rfl, hreference]
    dsimp only
    rw [hname, ih hrest, List.cons_append, List.take_append_drop]
  | case3 rest hreference ih => rw [replaceNames, if_pos rfl, hreference, ih h]
  | case4 r rest hcolon ih => rw [replaceNames, if_neg hcolon, ih h]

theorem isBlank_of_ending? {s : Text} {style : Style} {n : Nat} (h : ending? s = some (style, n)) :
    ∀ r ∈ s.take n, r.isBlank = false := by
  have htake {mark : Text} (hmark : mark.isPrefixOf s = true) : s.take mark.length = mark := by
    obtain ⟨rest, rfl⟩ := List.isPrefixOf_iff_prefix.1 hmark
    exact List.take_left
  unfold ending? at h
  split_ifs at h with hpicture htext hplain
  · cases h
    rw [show 7 = (Text.ofString "-emoji:").length by decide, htake hpicture]
    decide
  · cases h
    rw [show 6 = (Text.ofString "-text:").length by decide, htake htext]
    decide
  · cases h
    rw [show 1 = [colon].length from rfl, htake hplain]
    decide

theorem isBlank_of_reference? {s name : Text} {style : Style} {n : Nat}
    (h : reference? s = some (name, style, n)) : ∀ r ∈ s.take n, r.isBlank = false := by
  fun_induction reference? s generalizing name style n with
  | case1 => cases h
  | case2 r rest style' n' hending =>
    cases h
    exact isBlank_of_ending? hending
  | case3 => cases h
  | case4 r rest hending hblank ih =>
    obtain ⟨⟨name', style', n'⟩, hrest, hparts⟩ := Option.map_eq_some_iff.1 h
    cases hparts
    exact List.forall_mem_cons.2 ⟨by simpa using hblank, ih hrest⟩

theorem colon_not_mem_mark (style : Style) : colon ∉ style.mark := by
  cases style <;> decide

/-- No line feed is lost when names are replaced, and colons are lost if a name is that of a
picture. -/
theorem count_replaceNames (s : Text) :
    s.count ⟨0x0A⟩ ≤ (replaceNames s).count ⟨0x0A⟩ ∧
      (replaceNames s).count colon ≤ s.count colon ∧
      ((∃ name ∈ names s, ofName? name ≠ none) →
        (replaceNames s).count colon < s.count colon) := by
  fun_induction names s with
  | case1 => simp [replaceNames]
  | case2 rest name style n hreference ih =>
    obtain ⟨hfeeds, hcolons, hless⟩ := ih
    have hsplit (r : Rune) : (colon :: rest).count r =
        (colon :: rest.take n).count r + (rest.drop n).count r := by
      rw [← List.count_append, List.cons_append, List.take_append_drop]
    rw [replaceNames, if_pos rfl, hreference]
    dsimp only
    cases hpicture : ofName? name with
    | none =>
      dsimp only
      rw [List.count_append, List.count_append, hsplit, hsplit]
      refine ⟨by omega, by omega, ?_⟩
      rintro ⟨other, hother, hknown⟩
      rcases List.mem_cons.1 hother with rfl | hother
      · exact absurd hpicture hknown
      · exact Nat.add_lt_add_left (hless ⟨other, hother, hknown⟩) _
    | some picture =>
      -- two colons go with the name, and neither the picture nor its mark brings one
      have hfeed : (colon :: rest.take n).count ⟨0x0A⟩ = 0 := by
        rw [List.count_eq_zero, List.mem_cons, not_or]
        exact ⟨by decide, fun hmem => absurd (isBlank_of_reference? hreference _ hmem) (by decide)⟩
      have hcolon : 0 < (colon :: rest.take n).count colon :=
        List.count_pos_iff.2 List.mem_cons_self
      have hshown : (picture ++ style.mark).count colon = 0 := by
        rw [List.count_eq_zero, List.mem_append, not_or]
        exact ⟨colon_not_mem_of_ofName? hpicture, colon_not_mem_mark style⟩
      dsimp only
      rw [List.count_append, List.count_append (a := colon), hshown, hsplit, hsplit]
      exact ⟨by omega, by omega, fun _ => by omega⟩
  | case3 rest hreference ih =>
    rw [replaceNames, if_pos rfl, hreference]
    simpa [List.count_cons] using ih
  | case4 r rest hcolon ih =>
    rw [replaceNames, if_neg hcolon]
    simpa [List.count_cons] using ih

end Nomenclator.Console.Picture

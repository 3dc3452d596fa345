import Mathlib.Data.List.Permutation
import Nomenclator.Proofs.Rename.Candidates

/-!
# The longest name wins

Whatever the names consist of, renaming goes through the text from left to right. Where old names
stand whole, the longest one gives way to its new name, and all else stays. The order of the entries
plays no part in that.
-/

namespace Nomenclator

/-! ## Names that stand whole -/

/-- An old name stands at the start of `rest`, and no word character touches it there; `before` is
the text before it. -/
structure StandsWhole (renames : Entries Text) (before rest name : Text) : Prop where
  isOld : name ∈ renames.keys
  nonempty : name ≠ []
  free : ∀ r ∈ before.getLast?, r.isWord = false
  here : ∃ after, rest = name ++ after ∧ ∀ r ∈ after.head?, r.isWord = false

/-- What becomes of `rest` behind the text `before`, from left to right over the text as it was. -/
inductive LongestRenamed (renames : Entries Text) : Text → Text → Text → Prop where
  | done (before : Text) : LongestRenamed renames before [] []
  /-- The longest old name that stands here gives way to its new name. -/
  | name {before name after new out : Text}
      (stands : StandsWhole renames before (name ++ after) name)
      (longest : ∀ other, StandsWhole renames before (name ++ after) other →
        other.length ≤ name.length)
      (becomes : renames.get? name = some new)
      (rest : LongestRenamed renames (before ++ name) after out) :
      LongestRenamed renames before (name ++ after) (new ++ out)
  /-- A character at which none stands stays. -/
  | kept {before after out : Text} {r : Rune}
      (none : ∀ name, ¬StandsWhole renames before (r :: after) name)
      (rest : LongestRenamed renames (before ++ [r]) after out) :
      LongestRenamed renames before (r :: after) (r :: out)

variable {renames : Entries Text} {before rest after name : Text}

theorem any_head?_eq_false_iff : after.head?.any Rune.isWord = false ↔
    ∀ r ∈ after.head?, r.isWord = false := by
  cases after <;> simp

theorem endsInWord_eq_false_iff : endsInWord before = false ↔
    ∀ r ∈ before.getLast?, r.isWord = false := by
  unfold endsInWord
  cases before.getLast? <;> simp

theorem standsAt_iff : standsAt rest name = true ↔
    name ≠ [] ∧ ∃ after, rest = name ++ after ∧ ∀ r ∈ after.head?, r.isWord = false := by
  simp only [standsAt, Bool.and_eq_true, Bool.not_eq_true', List.isEmpty_eq_false_iff,
    List.isPrefixOf_iff_prefix, and_assoc]
  refine and_congr_right fun _ => ⟨?_, ?_⟩
  · rintro ⟨⟨after, rfl⟩, hend⟩
    rw [List.drop_left] at hend
    exact ⟨after, rfl, any_head?_eq_false_iff.1 hend⟩
  · rintro ⟨after, rfl, hend⟩
    rw [List.drop_left]
    exact ⟨⟨after, rfl⟩, any_head?_eq_false_iff.2 hend⟩

theorem standsWhole_iff : StandsWhole renames before rest name ↔
    endsInWord before = false ∧ name ∈ oldNames renames ∧ standsAt rest name = true := by
  rw [mem_oldNames, standsAt_iff, endsInWord_eq_false_iff]
  exact ⟨fun h => ⟨h.free, ⟨h.isOld, h.nonempty⟩, h.nonempty, h.here⟩,
    fun ⟨hfree, ⟨hold, hne⟩, _, hhere⟩ => ⟨hold, hne, hfree, hhere⟩⟩

/-! ## One step of the scan -/

theorem length_le_of_find? (h : (oldNames renames).find? (standsAt rest) = some name) {other : Text}
    (hother : StandsWhole renames before rest other) : other.length ≤ name.length := by
  obtain ⟨-, hmem, hstands⟩ := standsWhole_iff.1 hother
  obtain ⟨-, sooner, later, hsplit, hnone⟩ := List.find?_eq_some_iff_append.1 h
  have hpairs := pairwise_oldNames renames
  rw [hsplit, List.pairwise_append, List.pairwise_cons] at hpairs
  rw [hsplit] at hmem
  rcases List.mem_append.1 hmem with hsooner | hmem
  · have hno := hnone other hsooner
    rw [hstands] at hno
    exact Bool.noConfusion hno
  · rcases List.mem_cons.1 hmem with rfl | hlater
    · exact Nat.le_refl _
    · exact length_le_of_trySooner (hpairs.2.1.1 other hlater)

theorem find?_of_longest (hstands : StandsWhole renames before rest name)
    (hlongest : ∀ other, StandsWhole renames before rest other → other.length ≤ name.length) :
    (oldNames renames).find? (standsAt rest) = some name := by
  obtain ⟨hfree, hmem, hat⟩ := standsWhole_iff.1 hstands
  cases hfind : (oldNames renames).find? (standsAt rest) with
  | none => exact absurd hat (List.find?_eq_none.1 hfind name hmem)
  | some first =>
    have hfirst : StandsWhole renames before rest first :=
      standsWhole_iff.2 ⟨hfree, List.mem_of_find?_eq_some hfind, List.find?_some hfind⟩
    -- two texts of one length at the start of the same text
    have hlength : first.length = name.length :=
      Nat.le_antisymm (hlongest first hfirst) (length_le_of_find? hfind hstands)
    obtain ⟨after, hafter, -⟩ := hstands.here
    obtain ⟨after', hafter', -⟩ := hfirst.here
    rw [hafter] at hafter'
    rw [(List.append_inj hafter' hlength.symm).1]

theorem endsInWord_append (hname : name ≠ []) (before : Text) :
    endsInWord (before ++ name) = endsInWord name := by
  unfold endsInWord
  rw [List.getLast?_append_of_ne_nil _ hname]

theorem cutNames_of_longest (hstands : StandsWhole renames before (name ++ after) name)
    (hlongest : ∀ other, StandsWhole renames before (name ++ after) other →
      other.length ≤ name.length) :
    cutNames (oldNames renames) (endsInWord before) (name ++ after) =
      .name name :: cutNames (oldNames renames) (endsInWord (before ++ name)) after := by
  have hfind := find?_of_longest hstands hlongest
  rw [endsInWord_append hstands.nonempty, (standsWhole_iff.1 hstands).1]
  obtain ⟨r, more, rfl⟩ := List.exists_cons_of_ne_nil hstands.nonempty
  rw [List.cons_append] at hfind ⊢
  rw [cutNames, if_neg Bool.false_ne_true, hfind]
  simp only [List.length_cons, Nat.add_sub_cancel, List.drop_left]

theorem cutNames_of_none {r : Rune} (h : ∀ name, ¬StandsWhole renames before (r :: after) name) :
    cutNames (oldNames renames) (endsInWord before) (r :: after) =
      .kept r :: cutNames (oldNames renames) (endsInWord (before ++ [r])) after := by
  have hnext : endsInWord (before ++ [r]) = r.isWord := by simp [endsInWord]
  rw [hnext, cutNames]
  cases hword : endsInWord before with
  | true => rfl
  | false =>
    have hfind : (oldNames renames).find? (standsAt (r :: after)) = none :=
      List.find?_eq_none.2 fun name hmem hstands =>
        h name (standsWhole_iff.2 ⟨hword, hmem, hstands⟩)
    rw [if_neg Bool.false_ne_true, hfind]

theorem exists_longest (h : StandsWhole renames before rest name) :
    ∃ longest, StandsWhole renames before rest longest ∧
      ∀ other, StandsWhole renames before rest other → other.length ≤ longest.length := by
  obtain ⟨hfree, hmem, hat⟩ := standsWhole_iff.1 h
  obtain ⟨longest, hfind⟩ := Option.ne_none_iff_exists'.1 fun hnone =>
    absurd hat (List.find?_eq_none.1 hnone name hmem)
  exact ⟨longest, standsWhole_iff.2 ⟨hfree, List.mem_of_find?_eq_some hfind, List.find?_some hfind⟩,
    fun other => length_le_of_find? hfind⟩

/-! ## The whole text -/

theorem exists_get?_of_mem_oldNames (h : name ∈ oldNames renames) :
    ∃ new, renames.get? name = some new := by
  refine Option.ne_none_iff_exists'.1 fun hnone => ?_
  exact Entries.get?_eq_none_iff.1 hnone (mem_oldNames.1 h).1

theorem mem_of_name_mem_cutNames {names : List Text} {afterWord : Bool} {old : Text}
    (h : .name old ∈ cutNames names afterWord rest) : old ∈ names := by
  fun_induction cutNames names afterWord rest with
  | case1 => simp at h
  | case2 afterWord r rest name hfound ih =>
    rcases List.mem_cons.1 h with hsame | h
    · obtain rfl := Piece.name.inj hsame
      split at hfound
      · simp at hfound
      · exact List.mem_of_find?_eq_some hfound
    · exact ih h
  | case3 afterWord r rest hnone ih =>
    rcases List.mem_cons.1 h with hsame | h
    · simp at hsame
    · exact ih h

theorem longestRenamed_cutNames (renames : Entries Text) (before rest : Text) :
    LongestRenamed renames before rest
      ((cutNames (oldNames renames) (endsInWord before) rest).flatMap (Piece.rename renames)) := by
  match rest with
  | [] =>
    rw [cutNames_nil]
    exact .done before
  | r :: more =>
    by_cases h : ∃ name, StandsWhole renames before (r :: more) name
    · obtain ⟨name, hstands⟩ := h
      obtain ⟨longest, hstands, hlongest⟩ := exists_longest hstands
      obtain ⟨new, hnew⟩ := exists_get?_of_mem_oldNames (standsWhole_iff.1 hstands).2.1
      obtain ⟨after, hafter, -⟩ := hstands.here
      have hlt : after.length < more.length + 1 := by
        have hpos := List.length_pos_iff.2 hstands.nonempty
        have hlength := congrArg List.length hafter
        rw [List.length_append, List.length_cons] at hlength
        omega
      have hrest := longestRenamed_cutNames renames (before ++ longest) after
      rw [hafter] at hstands hlongest ⊢
      rw [cutNames_of_longest hstands hlongest, List.flatMap_cons, Piece.rename, hnew]
      exact .name hstands hlongest hnew hrest
    · have hnone : ∀ name, ¬StandsWhole renames before (r :: more) name :=
        fun name hstands => h ⟨name, hstands⟩
      rw [cutNames_of_none hnone]
      exact .kept hnone (longestRenamed_cutNames renames (before ++ [r]) more)
termination_by rest.length

theorem LongestRenamed.eq_cutNames {out : Text} (h : LongestRenamed renames before rest out) :
    out = (cutNames (oldNames renames) (endsInWord before) rest).flatMap
      (Piece.rename renames) := by
  induction h with
  | done before => rw [cutNames_nil]; rfl
  | name stands longest becomes _ ih =>
    rw [cutNames_of_longest stands longest, List.flatMap_cons, ← ih, Piece.rename, becomes]
    rfl
  | kept none _ ih =>
    rw [cutNames_of_none none, List.flatMap_cons, ← ih]
    rfl

/-! ## The order of the entries -/

section

variable {renames' : Entries Text}

theorem get?_eq_some_iff (h : renames.keys.Nodup) {new : Text} :
    renames.get? name = some new ↔ (name, new) ∈ renames := by
  refine ⟨Entries.mem_of_get?, fun hmem => ?_⟩
  obtain ⟨new', hnew'⟩ := Option.ne_none_iff_exists'.1 fun hnone =>
    Entries.get?_eq_none_iff.1 hnone (List.mem_map_of_mem hmem)
  have hsame := List.inj_on_of_nodup_map h hmem (Entries.mem_of_get? hnew') rfl
  obtain rfl : new = new' := congrArg Prod.snd hsame
  exact hnew'

variable (hperm : renames'.Perm renames)
include hperm

theorem keys_perm : renames'.keys.Perm renames.keys := hperm.map Prod.fst

theorem get?_of_perm (hnodup : renames.keys.Nodup) (name : Text) :
    renames'.get? name = renames.get? name := by
  ext new
  rw [get?_eq_some_iff hnodup, get?_eq_some_iff ((keys_perm hperm).nodup_iff.2 hnodup),
    hperm.mem_iff]

theorem oldNames_of_perm : oldNames renames' = oldNames renames := by
  refine candidateNames_congr fun name _ => ?_
  exact ((keys_perm hperm).filter _).mem_iff

/-- The entries in another order rename alike. -/
theorem renameAll_of_perm (hnodup : renames.keys.Nodup) (text : Text) :
    (renameAll text renames').text = (renameAll text renames).text ∧
      (renameAll text renames').substitutions = (renameAll text renames).substitutions ∧
      (renameAll text renames').perName.Perm (renameAll text renames).perName := by
  have hget := get?_of_perm hperm hnodup
  have hold := oldNames_of_perm hperm
  have hnames := (keys_perm hperm).filter fun name => !name.isEmpty
  have hrename : Piece.rename renames' = Piece.rename renames := by
    funext piece
    cases piece with
    | kept r => rfl
    | name old => simp only [Piece.rename, hget]
  refine ⟨?_, ?_, ?_⟩
  · rw [renameAll_text, renameAll_text, hold, hrename]
  · unfold renameAll
    simp only [← oldNames.eq_def, hold, hget]
    exact hnames.foldl_eq' (fun _ _ _ _ _ => by omega) 0
  · unfold renameAll
    simp only [← oldNames.eq_def, hold]
    exact hnames.map _

end

/-- Renaming replaces from left to right the longest old name that stands whole, and leaves all
else. Each occurrence that it finds has a new name and is counted, and the entries may come in any
order. -/
theorem renameAll_longest (text : Text) (renames : Entries Text) :
    (∀ out, LongestRenamed renames [] text out ↔ out = (renameAll text renames).text) ∧
      (∀ old, .name old ∈ cutNames (oldNames renames) false text →
        (∃ new, renames.get? old = some new) ∧ old ∈ (renameAll text renames).perName.keys) ∧
      ∀ renames', renames'.Perm renames → renames.keys.Nodup →
        (renameAll text renames').text = (renameAll text renames).text ∧
          (renameAll text renames').substitutions = (renameAll text renames).substitutions ∧
          (renameAll text renames').perName.Perm (renameAll text renames).perName := by
  refine ⟨fun out => ⟨fun h => h.eq_cutNames, ?_⟩, fun old hold => ?_,
    fun renames' hperm hnodup => renameAll_of_perm hperm hnodup text⟩
  · rintro rfl
    exact longestRenamed_cutNames renames [] text
  · have hmem := mem_of_name_mem_cutNames hold
    refine ⟨exists_get?_of_mem_oldNames hmem, List.mem_map.2 ⟨_, List.mem_map_of_mem ?_, rfl⟩⟩
    obtain ⟨hkey, hne⟩ := mem_oldNames.1 hmem
    exact List.mem_filter.2 ⟨hkey, by simpa using hne⟩

/-- Names that are no words. The longer one gives way to the one that it starts with where a word
goes on behind it, and the empty name counts for nothing. -/
theorem renameAll_longest_marks :
    let renames : Entries Text := [("a", "x"), ("a+", "y"), ("+", "z"), ("", "w")]
    LongestRenamed renames [] "a+b a+ +" "x+b y z" ∧
      (.name "a+" ∈ cutNames (oldNames renames) false "a+b a+ +" ∧
        ∃ new, renames.get? "a+" = some new) ∧
      renames.reverse.Perm renames ∧ renames.keys.Nodup ∧
        (renameAll "a+b a+ +" renames.reverse).text = (renameAll "a+b a+ +" renames).text := by
  intro renames
  have hcut : cutNames (oldNames renames) false "a+b a+ +" =
      [.name "a", .kept '+', .kept 'b', .kept ' ', .name "a+", .kept ' ', .name "+"] := by cbv
  have hmem : .name "a+" ∈ cutNames (oldNames renames) false "a+b a+ +" := by simp [hcut]
  have hnodup : renames.keys.Nodup := by decide
  have hlongest := renameAll_longest "a+b a+ +" renames
  exact ⟨(hlongest.1 _).2 (by cbv), ⟨hmem, (hlongest.2.1 _ hmem).1⟩, List.reverse_perm _, hnodup,
    (hlongest.2.2 _ (List.reverse_perm _) hnodup).1⟩

end Nomenclator

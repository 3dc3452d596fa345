import Mathlib.Data.List.Lex
import Nomenclator.Proofs.Listing.Discovery
import Nomenclator.Proofs.Rename.Candidates

/-!
# What lies below a directory

A directory contributes the files below it that have the name of a listing, sorted by path. They are
reached through directories alone: a link may lead to a listing, but no linked directory is entered.
-/

namespace Nomenclator

/-! ## Names that a pattern covers -/

namespace Glob

theorem covers_literal_iff {pattern : Text}
    (h : ∀ r ∈ pattern, r.code ≠ 0x2A ∧ r.code ≠ 0x3F ∧ r.code ≠ 0x5B) {name : Text} :
    covers pattern name = true ↔ name = pattern := by
  induction pattern generalizing name with
  | nil => simp [covers]
  | cons p rest ih =>
    obtain ⟨hstar, hmark, hset⟩ := h p List.mem_cons_self
    have hplain : p = ⟨0x2A⟩ → False := fun heq => hstar (congrArg Rune.code heq)
    cases name with
    | nil => simp [covers]
    | cons r name =>
      have hrest : covers rest name = true ↔ name = rest :=
        ih fun r hr => h r (List.mem_cons_of_mem p hr)
      simp [covers, hmark, hset, hrest]

theorem covers_star_iff {rest name : Text} :
    covers (⟨0x2A⟩ :: rest) name = true ↔ ∃ tail, tail <:+ name ∧ covers rest tail = true := by
  induction name with
  | nil => simp [covers]
  | cons r name ih =>
    rw [covers, Bool.or_eq_true, ih]
    simp only [List.suffix_cons_iff, or_and_right, exists_or, exists_eq_left]

end Glob

namespace Listing

/-- The names of listings that are no result files. -/
def IsListingName (name : Text) : Prop :=
  (".c" : Text) <:+ name ∧ ¬outputSuffix <:+ name

theorem isMatch_iff {name : Text} : isMatch ".c" name = true ↔ (".c" : Text) <:+ name := by
  have hstars : ((Rune.ofChar '*' :: (".c" : Text)) != twoStars) = true := by decide
  rw [isMatch, hstars, Bool.true_and]
  have hliteral (tail : Text) : Glob.covers ".c" tail = true ↔ tail = ".c" :=
    Glob.covers_literal_iff (by decide)
  refine Glob.covers_star_iff.trans ?_
  simp only [hliteral, exists_eq_right]

end Listing

/-! ## Walks through directories -/

namespace FileTree

/-- There is something under these names below the directory, and all but the last are names of
directories. -/
inductive Below (tree : FileTree) : Location → List Text → Prop
  | entry {directory : Location} {name : Text} (h : (tree.node? (directory ++ [name])).isSome) :
    Below tree directory [name]
  | deeper {directory : Location} {name : Text} {names : List Text}
      (h : tree.node? (directory ++ [name]) = some .directory)
      (hbelow : Below tree (directory ++ [name]) names) : Below tree directory (name :: names)

variable {tree : FileTree} {directory : Location} {names : List Text}

theorem Below.ne_nil (h : tree.Below directory names) : names ≠ [] := by
  cases h <;> simp

theorem Below.isSome (h : tree.Below directory names) :
    (tree.node? (directory ++ names)).isSome := by
  induction h with
  | entry h => exact h
  | deeper _ _ ih => simpa using ih

theorem exists_of_node? {location : Location} (hroot : location ≠ [])
    (h : (tree.node? location).isSome) : ∃ node, (location, node) ∈ tree.nodes := by
  rw [node?, if_neg hroot, Option.isSome_map, List.find?_isSome] at h
  obtain ⟨⟨l, node⟩, hmem, heq⟩ := h
  obtain rfl : l = location := by simpa using heq
  exact ⟨node, hmem⟩

end FileTree

namespace Listing

open FileTree

variable {tree : FileTree} {base directory : Location} {names : List Text}

theorem reaches_iff : reaches tree directory names = true ↔ tree.Below directory names := by
  fun_induction reaches tree directory names with
  | case1 directory =>
    refine iff_of_false Bool.false_ne_true fun h => h.ne_nil rfl
  | case2 directory name =>
    refine ⟨.entry, fun h => ?_⟩
    cases h with
    | entry h => exact h
    | deeper _ hbelow => exact absurd rfl hbelow.ne_nil
  | case3 directory name rest hrest ih =>
    rw [Bool.and_eq_true, beq_iff_eq, ih]
    constructor
    · exact fun ⟨hnode, hbelow⟩ => .deeper hnode hbelow
    · intro h
      cases h with
      | entry h => exact absurd rfl hrest
      | deeper hnode hbelow => exact ⟨hnode, hbelow⟩

theorem mem_below_iff : names ∈ below tree directory ↔ tree.Below directory names := by
  rw [below, List.mem_filterMap]
  constructor
  · rintro ⟨entry, -, h⟩
    dsimp only at h
    split at h
    · next hreaches =>
      injection h with h
      rw [Bool.and_eq_true, h] at hreaches
      exact reaches_iff.1 hreaches.2
    · simp at h
  · intro h
    obtain ⟨node, hmem⟩ := exists_of_node? (by simp [h.ne_nil]) h.isSome
    refine ⟨_, hmem, ?_⟩
    simp [reaches_iff.2 h]

theorem mem_directoriesBelow_iff :
    names ∈ directoriesBelow tree directory ↔
      tree.Below directory names ∧ tree.node? (directory ++ names) = some .directory := by
  rw [directoriesBelow, List.mem_filter, mem_below_iff, beq_iff_eq]

end Listing

/-! ## The order of paths -/

namespace Text

/-- Dictionary order on lists of texts is the order of the lists of lists of codes. -/
theorem leList_iff_codes {s t : List Text} :
    leList s t = true ↔ s.map (List.map Rune.code) ≤ t.map (List.map Rune.code) := by
  induction s generalizing t with
  | nil => simp [leList, ← not_lt]
  | cons a s ih =>
    cases t with
    | nil => simp [leList]
    | cons b t =>
      rw [List.map_cons, List.map_cons, ← not_lt, List.cons_lt_cons_iff, not_or, not_and, not_lt,
        not_lt, ← ih, ← le_iff_codes, leList]
      split_ifs with heq
      · subst heq
        simp [le_iff_codes]
      · refine (and_iff_left fun hcodes => absurd ?_ heq).symm
        have hcode : Function.Injective Rune.code := fun a b hab => congrArg Rune.mk hab
        exact (hcode.list_map hcodes).symm

end Text

namespace Path

theorem le_trans {p q r : Path} (hpq : p.le q = true) (hqr : q.le r = true) : p.le r = true := by
  unfold le at *
  rw [Text.leList_iff_codes] at *
  exact hpq.trans hqr

theorem le_total (p q : Path) : (p.le q || q.le p) = true := by
  rw [Bool.or_eq_true, le, le, Text.leList_iff_codes, Text.leList_iff_codes]
  exact LinearOrder.le_total _ _

theorem pairwise_mergeSort (paths : List Path) :
    (paths.mergeSort le).Pairwise fun p q => p.le q = true :=
  @List.pairwise_mergeSort Path le (fun _ _ _ => le_trans) le_total paths

end Path

/-! ## What an argument stands for -/

namespace Listing

open FileTree

/-- The path leads from a named directory through directories to a name that ends like that of a
listing. -/
def IsMatchBelow (tree : FileTree) (base : Location) (path file : Path) : Prop :=
  ∃ directory names name, tree.lookup base path = .ok (directory, .directory) ∧
    tree.Below directory (names ++ [name]) ∧ (".c" : Text) <:+ name ∧
    file = path.descend (names ++ [name])

/-- The path leads from a named directory through directories to a listing: to a file or a link to
one, with the name of a listing. -/
def IsListingBelow (tree : FileTree) (base : Location) (path file : Path) : Prop :=
  ∃ directory names name, tree.lookup base path = .ok (directory, .directory) ∧
    tree.Below directory (names ++ [name]) ∧ IsListingName name ∧
    file = path.descend (names ++ [name]) ∧ tree.HasFile base file

/-- What an argument stands for: itself, or the listings below it, sorted by path. -/
inductive Part (tree : FileTree) (base : Location) (path : Path) : List Path → Prop
  | file (h : tree.HasFile base path) : Part tree base path [path]
  | directory {files : List Path} (h : tree.HasDirectory base path)
      (hsorted : files.Pairwise fun f g => f.le g = true)
      (hmem : ∀ f, f ∈ files ↔ IsListingBelow tree base path f) : Part tree base path files

/-- A directory below an argument lies too deep, or its path is too long. -/
def IsOutOfReach (path : Path) (names : List Text) : Prop :=
  depthLimit < names.length ∨ isPathTooLong (path.descend names) = true

/-- The argument is too long, or something that the search has to look at below it is: a directory,
or what has the name of a listing. Or a directory lies too deep. -/
inductive IsObstructed (tree : FileTree) (base : Location) (path : Path) : Prop
  | argument (h : tree.IsTooLong base path)
  | directory {directory : Location} {names : List Text}
      (hlookup : tree.lookup base path = .ok (directory, .directory))
      (hbelow : tree.Below directory names)
      (hnode : tree.node? (directory ++ names) = some .directory)
      (h : IsOutOfReach path names)
  | listing {file : Path} (hmatch : IsMatchBelow tree base path file)
      (h : tree.IsTooLong base file)

variable {tree : FileTree} {base directory : Location} {path file : Path}

theorem IsObstructed.isTooLong_or_hasDirectory (h : IsObstructed tree base path) :
    tree.IsTooLong base path ∨ tree.HasDirectory base path := by
  cases h with
  | argument h => exact .inl h
  | directory hlookup _ _ _ => exact .inr ⟨_, hlookup⟩
  | listing hmatch _ =>
    obtain ⟨directory, _, _, hlookup, _⟩ := hmatch
    exact .inr ⟨directory, hlookup⟩

theorem mem_matchesBelow_iff :
    file ∈ matchesBelow tree path directory ".c" ↔
      ∃ names name, tree.Below directory (names ++ [name]) ∧ (".c" : Text) <:+ name ∧
        path.descend (names ++ [name]) = file := by
  rw [matchesBelow, List.mem_map]
  simp only [List.mem_filter, mem_below_iff, Option.any_eq_true, isMatch_iff,
    List.getLast?_eq_some_iff]
  constructor
  · rintro ⟨names, ⟨hbelow, name, ⟨above, rfl⟩, hname⟩, hfile⟩
    exact ⟨above, name, hbelow, hname, hfile⟩
  · rintro ⟨above, name, hbelow, hname, hfile⟩
    exact ⟨above ++ [name], ⟨hbelow, name, ⟨above, rfl⟩, hname⟩, hfile⟩

theorem isMatchBelow_iff (h : tree.lookup base path = .ok (directory, .directory)) :
    IsMatchBelow tree base path file ↔ file ∈ matchesBelow tree path directory ".c" := by
  rw [mem_matchesBelow_iff]
  constructor
  · rintro ⟨directory', names, name, hlookup, hbelow, hname, hfile⟩
    obtain rfl : directory = directory' := by simpa [h] using hlookup
    exact ⟨names, name, hbelow, hname, hfile.symm⟩
  · rintro ⟨names, name, hbelow, hname, hfile⟩
    exact ⟨directory, names, name, h, hbelow, hname, hfile.symm⟩

theorem isListingBelow_iff (h : tree.lookup base path = .ok (directory, .directory)) :
    IsListingBelow tree base path file ↔
      file ∈ matchesBelow tree path directory ".c" ∧ tree.HasFile base file ∧
        isResultFile file = false := by
  have hresult : ∀ names name, isResultFile (path.descend (names ++ [name])) = false ↔
      ¬outputSuffix <:+ name := by
    intro names name
    rw [← Bool.not_eq_true, ← List.isSuffixOf_iff_suffix]
    simp [isResultFile, Path.name?, Path.descend, Text.endsWith, ← List.append_assoc]
  rw [← isMatchBelow_iff h]
  constructor
  · rintro ⟨directory, names, name, hlookup, hbelow, ⟨hname, hother⟩, rfl, hfile⟩
    exact ⟨⟨directory, names, name, hlookup, hbelow, hname, rfl⟩, hfile, (hresult _ _).2 hother⟩
  · rintro ⟨⟨directory, names, name, hlookup, hbelow, hname, rfl⟩, hfile, hother⟩
    exact ⟨directory, names, name, hlookup, hbelow, ⟨hname, (hresult _ _).1 hother⟩, rfl, hfile⟩

end Listing

end Nomenclator

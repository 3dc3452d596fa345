import Nomenclator.Proofs.Files.Tree
import Nomenclator.Proofs.Listing.Below

/-!
# The inputs of a run

The search finds every file that its arguments stand for, and nothing else, each file once, in the
order in which the files come first. It is refused just when an argument leads neither to a
directory nor to a file. Limits are not provided for: those on names and paths, and the one on how
deep directories may lie.
-/

namespace Nomenclator

namespace FileTree

/-- Both paths lead to the same file. -/
def SameFile (tree : FileTree) (base : Location) (p q : Path) : Prop :=
  ∃ location content, tree.lookup base p = .ok (location, .file content) ∧
    tree.lookup base q = .ok (location, .file content)

theorem node?_of_lookup_file {tree : FileTree} {base location : Location} {p : Path}
    {content : Content} (h : tree.lookup base p = .ok (location, .file content)) :
    tree.node? location = some (.file content) :=
  node?_of_find_file (lookup_eq_ok_iff.1 h)

end FileTree

namespace Listing

open FileTree

/-! ## What is promised -/

/-- A file that is named, or a listing below a directory that is named. -/
inductive IsInput (tree : FileTree) (base : Location) (paths : List Path) : Path → Prop
  | named {path : Path} (hmem : path ∈ paths) (hfile : tree.HasFile base path) :
    IsInput tree base paths path
  | below {path file : Path} (hmem : path ∈ paths) (hbelow : IsListingBelow tree base path file) :
    IsInput tree base paths file

/-- Each entry stands in the list too, and the entries before it are the same as the elements that
the list has before it. -/
def IsFirstOfEach (same : Path → Path → Prop) (all found : List Path) : Prop :=
  ∀ before f after, found = before ++ f :: after →
    ∃ earlier later, all = earlier ++ f :: later ∧
      ∀ g, (∃ p ∈ earlier, same p g) ↔ ∃ p ∈ before, same p g

structure Finds (tree : FileTree) (base : Location) (paths found : List Path) : Prop where
  complete : ∀ file, IsInput tree base paths file → ∃ f ∈ found, tree.SameFile base f file
  sound : ∀ f ∈ found, IsInput tree base paths f
  distinct : found.Pairwise fun f g => ¬tree.SameFile base f g
  ordered : ∃ parts, List.Forall₂ (Part tree base) paths parts ∧
    IsFirstOfEach (tree.SameFile base) parts.flatten found

/-- The first argument that leads neither to a directory nor to a file is refused. If there is none,
the inputs are found. -/
inductive AsPromised (tree : FileTree) (base : Location) (paths : List Path) :
    Except Halt (List Path) → Prop
  | missing {before after : List Path} {path : Path} (hpaths : paths = before ++ path :: after)
      (hbefore : ∀ p ∈ before, tree.IsUsable base p) (hpath : ¬tree.IsUsable base path) :
    AsPromised tree base paths (.error (.failed (.input (.missing path.toText))))
  | found {files : List Path} (husable : ∀ p ∈ paths, tree.IsUsable base p)
      (hfinds : Finds tree base paths files) : AsPromised tree base paths (.ok files)

/-- An argument is obstructed, and all before it are usable. -/
inductive ComesToLimit (tree : FileTree) (base : Location) : List Path → Prop
  | here {path : Path} {rest : List Path} (h : IsObstructed tree base path) :
    ComesToLimit tree base (path :: rest)
  | later {path : Path} {rest : List Path} (hpath : tree.IsUsable base path)
      (h : ComesToLimit tree base rest) : ComesToLimit tree base (path :: rest)

/-- What a search breaks off with. -/
inductive IsLimit : Escape → Prop
  | tooLong (path : Text) : IsLimit (.file .nameTooLong path)
  | tooDeep : IsLimit .nestingTooDeep

variable {tree : FileTree} {base : Location}

/-! ## One argument -/

theorem filesAmong_cases (tree : FileTree) (base : Location) (paths : List Path) :
    (∃ files, filesAmong tree base paths = .ok files ∧ ∀ p ∈ paths, ¬tree.IsTooLong base p) ∨
      ∃ p ∈ paths, tree.IsTooLong base p ∧
        filesAmong tree base paths = .error (.file .nameTooLong p.toText) := by
  induction paths with
  | nil => exact .inl ⟨[], rfl, by simp⟩
  | cons path rest ih =>
    unfold filesAmong
    cases hfile : tree.isFile base path with
    | error error =>
      obtain ⟨rfl, hlong⟩ := isFile_eq_error_iff.1 hfile
      exact .inr ⟨path, List.mem_cons_self, hlong, rfl⟩
    | ok isFile =>
      have hpath : ¬tree.IsTooLong base path := fun hlong => by
        simp [isFile_eq_error_iff.2 ⟨rfl, hlong⟩] at hfile
      rcases ih with ⟨files, hfiles, hrest⟩ | ⟨p, hmem, hlong, herror⟩
      · rw [hfiles]
        exact .inl ⟨_, rfl, List.forall_mem_cons.2 ⟨hpath, hrest⟩⟩
      · rw [herror]
        exact .inr ⟨p, List.mem_cons_of_mem path hmem, hlong, rfl⟩

theorem enter_cases (path : Path) (all : List (List Text)) :
    (enter path all = .ok () ∧ ∀ names ∈ all, ¬IsOutOfReach path names) ∨
      ∃ escape, enter path all = .error escape ∧ IsLimit escape ∧
        ∃ names ∈ all, IsOutOfReach path names := by
  induction all with
  | nil => exact .inl ⟨rfl, by simp⟩
  | cons names rest ih =>
    unfold enter
    by_cases hdeep : depthLimit < names.length
    · rw [if_pos hdeep]
      exact .inr ⟨_, rfl, .tooDeep, names, List.mem_cons_self, .inl hdeep⟩
    · rw [if_neg hdeep]
      by_cases hlong : isPathTooLong (path.descend names) = true
      · rw [if_pos hlong]
        exact .inr ⟨_, rfl, .tooLong _, names, List.mem_cons_self, .inr hlong⟩
      · rw [if_neg hlong]
        have hnames : ¬IsOutOfReach path names := fun h => h.elim hdeep hlong
        rcases ih with ⟨hrest, hall⟩ | ⟨escape, herror, hlimit, other, hmem, hfar⟩
        · exact .inl ⟨hrest, List.forall_mem_cons.2 ⟨hnames, hall⟩⟩
        · exact .inr ⟨escape, herror, hlimit, other, List.mem_cons_of_mem names hmem, hfar⟩

/-- What becomes of an argument. -/
inductive Expansion (tree : FileTree) (base : Location) (path : Path) :
    Except Halt (List Path) → Prop
  | obstructed {escape : Escape} (hlimit : IsLimit escape) (h : IsObstructed tree base path) :
    Expansion tree base path (.error (.escaped escape))
  | missing (hfree : ¬IsObstructed tree base path) (h : ¬tree.IsUsable base path) :
    Expansion tree base path (.error (.failed (.input (.missing path.toText))))
  | part {files : List Path} (hfree : ¬IsObstructed tree base path)
      (husable : tree.IsUsable base path) (h : Part tree base path files) :
    Expansion tree base path (.ok files)

theorem expansion_of_directory {path : Path} {directory : Location}
    (h : tree.lookup base path = .ok (directory, .directory)) :
    Expansion tree base path (expand tree base defaultExtensions path).1 := by
  have hbad : isBadExtension ".c" = false := by decide
  simp only [expand, h, defaultExtensions, listingsFor, listingsBelow, hbad, Bool.false_eq_true,
    if_false]
  rcases enter_cases path (directoriesBelow tree directory) with
    ⟨henter, hnear⟩ | ⟨escape, henter, hlimit, names, hmem, hfar⟩
  · rw [henter]
    rcases filesAmong_cases tree base (matchesBelow tree path directory ".c") with
      ⟨files, hfiles, hshort⟩ | ⟨p, hmem, hlong, herror⟩
    · rw [hfiles]
      refine .part ?_ (.inl ⟨directory, h⟩)
        (.directory ⟨directory, h⟩ (Path.pairwise_mergeSort _) ?_)
      · intro hobstructed
        cases hobstructed with
        | argument hlong => simp [IsTooLong, h] at hlong
        | @directory directory' names hlookup hbelow hnode hfar =>
          obtain rfl : directory = directory' := by simpa [h] using hlookup
          exact hnear names (mem_directoriesBelow_iff.2 ⟨hbelow, hnode⟩) hfar
        | listing hmatch hlong => exact hshort _ ((isMatchBelow_iff h).1 hmatch) hlong
      · intro file
        simp [isListingBelow_iff h, mem_filesAmong_iff hfiles, and_assoc]
    · rw [herror]
      exact .obstructed (.tooLong _) (.listing ((isMatchBelow_iff h).2 hmem) hlong)
  · rw [henter]
    obtain ⟨hbelow, hnode⟩ := mem_directoriesBelow_iff.1 hmem
    exact .obstructed hlimit (.directory h hbelow hnode hfar)

theorem expansion_expand (tree : FileTree) (base : Location) (path : Path) :
    Expansion tree base path (expand tree base defaultExtensions path).1 := by
  have hfree (hlong : ¬tree.IsTooLong base path) (hdirectory : ¬tree.HasDirectory base path) :
      ¬IsObstructed tree base path :=
    fun h => h.isTooLong_or_hasDirectory.elim hlong hdirectory
  cases hlookup : tree.lookup base path with
  | error error =>
    have husable : ¬tree.IsUsable base path := by
      simp [IsUsable, HasDirectory, HasFile, hlookup]
    by_cases hlong : tree.IsTooLong base path
    · obtain rfl : error = .nameTooLong := by simpa [IsTooLong, hlookup] using hlong
      simp only [expand, hlookup]
      exact .obstructed (.tooLong _) (.argument hlong)
    · cases error with
      | nameTooLong => exact absurd hlookup hlong
      | _ =>
        simp only [expand, hlookup]
        exact .missing (hfree hlong fun h => husable (.inl h)) husable
  | ok found =>
    obtain ⟨location, node⟩ := found
    cases node with
    | directory => exact expansion_of_directory hlookup
    | file content =>
      have hfile : tree.HasFile base path := ⟨location, content, hlookup⟩
      simp only [expand, hlookup]
      exact .part (hfree (by simp [IsTooLong, hlookup]) (by simp [HasDirectory, hlookup]))
        (.inr hfile) (.file hfile)
    | link target =>
      simp only [expand, hlookup]
      exact .missing (hfree (by simp [IsTooLong, hlookup]) (by simp [HasDirectory, hlookup]))
        (by simp [IsUsable, HasDirectory, HasFile, hlookup])

/-! ## All arguments -/

variable {paths : List Path}

theorem expandAll_cons (path : Path) (rest : List Path) :
    (expandAll tree base defaultExtensions (path :: rest)).1 =
      match (expand tree base defaultExtensions path).1 with
      | .error halt => .error halt
      | .ok files => (expandAll tree base defaultExtensions rest).1.map (files ++ ·) := by
  rw [expandAll]
  rcases expand tree base defaultExtensions path with ⟨_ | _, log⟩ <;> rfl

/-- What becomes of all arguments. -/
inductive Expansions (tree : FileTree) (base : Location) (paths : List Path) :
    Except Halt (List Path) → Prop
  | obstructed {escape : Escape} (hlimit : IsLimit escape) (h : ComesToLimit tree base paths) :
    Expansions tree base paths (.error (.escaped escape))
  | missing {before after : List Path} {path : Path} (hfree : ¬ComesToLimit tree base paths)
      (hpaths : paths = before ++ path :: after) (hbefore : ∀ p ∈ before, tree.IsUsable base p)
      (hpath : ¬tree.IsUsable base path) :
    Expansions tree base paths (.error (.failed (.input (.missing path.toText))))
  | parts {parts : List (List Path)} (hfree : ¬ComesToLimit tree base paths)
      (husable : ∀ p ∈ paths, tree.IsUsable base p)
      (hparts : List.Forall₂ (Part tree base) paths parts) :
    Expansions tree base paths (.ok parts.flatten)

theorem not_comesToLimit_cons {path : Path} {rest : List Path}
    (hpath : ¬IsObstructed tree base path) (hrest : ¬ComesToLimit tree base rest) :
    ¬ComesToLimit tree base (path :: rest) := by
  intro h
  cases h with
  | here h => exact hpath h
  | later _ h => exact hrest h

theorem expansions_expandAll (tree : FileTree) (base : Location) (paths : List Path) :
    Expansions tree base paths (expandAll tree base defaultExtensions paths).1 := by
  induction paths with
  | nil => exact .parts (by rintro ⟨⟩) (by simp) .nil
  | cons path rest ih =>
    rw [expandAll_cons]
    have hpath := expansion_expand tree base path
    generalize (expand tree base defaultExtensions path).1 = result at hpath ⊢
    cases hpath with
    | obstructed hlimit h => exact .obstructed hlimit (.here h)
    | missing hfree h =>
      have hsplit : path :: rest = [] ++ path :: rest := rfl
      refine .missing (fun hlong => ?_) hsplit (by simp) h
      cases hlong with
      | here hobstructed => exact hfree hobstructed
      | later husable _ => exact h husable
    | part hfree husable hpart =>
      generalize (expandAll tree base defaultExtensions rest).1 = results at ih ⊢
      cases ih with
      | obstructed hlimit h => exact .obstructed hlimit (.later husable h)
      | @missing before after other hrest hpaths hbefore h =>
        have hsplit : path :: rest = (path :: before) ++ other :: after :=
          congrArg (path :: ·) hpaths
        exact .missing (not_comesToLimit_cons hfree hrest) hsplit
          (List.forall_mem_cons.2 ⟨husable, hbefore⟩) h
      | parts hrest hall hparts =>
        exact .parts (not_comesToLimit_cons hfree hrest)
          (List.forall_mem_cons.2 ⟨husable, hall⟩) (.cons hpart hparts)

theorem mem_part_iff {path file : Path} {files : List Path} (h : Part tree base path files) :
    file ∈ files ↔ (file = path ∧ tree.HasFile base path) ∨ IsListingBelow tree base path file := by
  cases h with
  | file hfile =>
    have hnone : ¬IsListingBelow tree base path file := fun ⟨directory, _, _, hlookup, _⟩ =>
      not_hasFile_of_hasDirectory ⟨directory, hlookup⟩ hfile
    simp [hfile, hnone]
  | directory hdirectory _ hmem =>
    rw [hmem, or_iff_right fun h => not_hasFile_of_hasDirectory hdirectory h.2]

theorem isInput_cons_iff {path file : Path} {rest : List Path} :
    IsInput tree base (path :: rest) file ↔
      ((file = path ∧ tree.HasFile base path) ∨ IsListingBelow tree base path file) ∨
        IsInput tree base rest file := by
  constructor
  · rintro (⟨hmem, hfile⟩ | ⟨hmem, hbelow⟩)
    · rcases List.mem_cons.1 hmem with rfl | hmem
      · exact .inl (.inl ⟨rfl, hfile⟩)
      · exact .inr (.named hmem hfile)
    · rcases List.mem_cons.1 hmem with rfl | hmem
      · exact .inl (.inr hbelow)
      · exact .inr (.below hmem hbelow)
  · rintro ((⟨rfl, hfile⟩ | hbelow) | hrest)
    · exact .named List.mem_cons_self hfile
    · exact .below List.mem_cons_self hbelow
    · cases hrest with
      | named hmem hfile => exact .named (List.mem_cons_of_mem path hmem) hfile
      | below hmem hbelow => exact .below (List.mem_cons_of_mem path hmem) hbelow

theorem mem_parts_iff {file : Path} {parts : List (List Path)}
    (h : List.Forall₂ (Part tree base) paths parts) :
    file ∈ parts.flatten ↔ IsInput tree base paths file := by
  induction h with
  | nil =>
    refine iff_of_false List.not_mem_nil fun h => ?_
    cases h <;> simp_all
  | cons hpart _ ih =>
    rw [List.flatten_cons, List.mem_append, mem_part_iff hpart, ih, isInput_cons_iff]

theorem IsInput.hasFile {file : Path} (h : IsInput tree base paths file) :
    tree.HasFile base file := by
  cases h with
  | named _ hfile => exact hfile
  | below _ hbelow =>
    obtain ⟨_, _, _, _, _, _, rfl, hfile⟩ := hbelow
    exact hfile

/-! ## Each file once -/

theorem sameFile_iff {p q : Path} (hp : tree.HasFile base p) (hq : tree.HasFile base q) :
    tree.SameFile base p q ↔ location tree base p = location tree base q := by
  obtain ⟨l, content, hp⟩ := hp
  obtain ⟨l', content', hq⟩ := hq
  simp only [location, hp, hq, SameFile]
  constructor
  · rintro ⟨l'', content'', hp', hq'⟩
    simp_all
  · rintro rfl
    have hsame := (node?_of_lookup_file hp).symm.trans (node?_of_lookup_file hq)
    obtain rfl : content = content' := by simpa using hsame
    exact ⟨l, content, rfl, rfl⟩

theorem dropRepeated_cons (seen : List Location) (path : Path) (rest : List Path) :
    dropRepeated tree base seen (path :: rest) =
      if location tree base path ∈ seen then dropRepeated tree base seen rest
      else path :: dropRepeated tree base (location tree base path :: seen) rest := by
  rw [dropRepeated]
  simp only [List.contains_iff_mem]

theorem location_not_mem_of_mem_dropRepeated {seen : List Location} {file : Path}
    (h : file ∈ dropRepeated tree base seen paths) : location tree base file ∉ seen := by
  induction paths generalizing seen with
  | nil => simp [dropRepeated] at h
  | cons path rest ih =>
    rw [dropRepeated_cons] at h
    split at h
    · exact ih h
    · next hnew =>
      rcases List.mem_cons.1 h with rfl | h
      · exact hnew
      · exact fun hseen => ih h (List.mem_cons_of_mem _ hseen)

theorem pairwise_dropRepeated (seen : List Location) (paths : List Path) :
    (dropRepeated tree base seen paths).Pairwise fun p q =>
      location tree base p ≠ location tree base q := by
  induction paths generalizing seen with
  | nil => exact .nil
  | cons path rest ih =>
    rw [dropRepeated_cons]
    split
    · exact ih seen
    · refine List.pairwise_cons.2 ⟨fun q hq heq => ?_, ih _⟩
      exact location_not_mem_of_mem_dropRepeated hq (heq ▸ List.mem_cons_self)

theorem exists_mem_dropRepeated {file : Path} (h : file ∈ paths) (seen : List Location) :
    location tree base file ∈ seen ∨
      ∃ f ∈ dropRepeated tree base seen paths, location tree base f = location tree base file := by
  induction paths generalizing seen with
  | nil => simp at h
  | cons path rest ih =>
    rw [dropRepeated_cons]
    split
    · next hseen =>
      rcases List.mem_cons.1 h with rfl | h
      · exact .inl hseen
      · exact ih h seen
    · rcases List.mem_cons.1 h with rfl | h
      · exact .inr ⟨file, List.mem_cons_self, rfl⟩
      · rcases ih h (location tree base path :: seen) with hseen | ⟨f, hf, heq⟩
        · rcases List.mem_cons.1 hseen with heq | hseen
          · exact .inr ⟨path, List.mem_cons_self, heq.symm⟩
          · exact .inl hseen
        · exact .inr ⟨f, List.mem_cons_of_mem path hf, heq⟩

/-- What is kept before an entry has the same locations as all that comes before it, apart from
those that were seen from the start. -/
theorem exists_split_of_dropRepeated {seen : List Location} {before after : List Path} {f : Path}
    (h : dropRepeated tree base seen paths = before ++ f :: after) :
    ∃ earlier later, paths = earlier ++ f :: later ∧
      ∀ l, (l ∈ earlier.map (location tree base) ∨ l ∈ seen) ↔
        (l ∈ before.map (location tree base) ∨ l ∈ seen) := by
  induction paths generalizing seen before with
  | nil => simp [dropRepeated] at h
  | cons path rest ih =>
    rw [dropRepeated_cons] at h
    split at h
    · next hseen =>
      obtain ⟨earlier, later, hrest, hlocations⟩ := ih h
      refine ⟨path :: earlier, later, congrArg (path :: ·) hrest, fun l => ?_⟩
      rw [← hlocations, List.map_cons, List.mem_cons, or_assoc]
      exact or_iff_right_of_imp fun heq => .inr (heq ▸ hseen)
    · cases before with
      | nil =>
        obtain ⟨rfl, -⟩ := List.cons.inj h
        exact ⟨[], rest, rfl, fun l => Iff.rfl⟩
      | cons first before =>
        obtain ⟨rfl, hrest⟩ := List.cons.inj h
        obtain ⟨earlier, later, hsplit, hlocations⟩ := ih hrest
        refine ⟨path :: earlier, later, congrArg (path :: ·) hsplit, fun l => ?_⟩
        have hl := hlocations l
        simp only [List.map_cons, List.mem_cons] at hl ⊢
        tauto

theorem exists_sameFile_iff (hfiles : ∀ p ∈ paths, tree.HasFile base p) {file : Path} :
    (∃ p ∈ paths, tree.SameFile base p file) ↔
      tree.HasFile base file ∧ location tree base file ∈ paths.map (location tree base) := by
  rw [List.mem_map]
  constructor
  · rintro ⟨p, hp, hsame⟩
    have hfile : tree.HasFile base file := by
      obtain ⟨l, content, -, hfile⟩ := hsame
      exact ⟨l, content, hfile⟩
    exact ⟨hfile, p, hp, (sameFile_iff (hfiles p hp) hfile).1 hsame⟩
  · rintro ⟨hfile, p, hp, heq⟩
    exact ⟨p, hp, (sameFile_iff (hfiles p hp) hfile).2 heq⟩

theorem isFirstOfEach_dropRepeated (hfiles : ∀ p ∈ paths, tree.HasFile base p) :
    IsFirstOfEach (tree.SameFile base) paths (dropRepeated tree base [] paths) := by
  intro before f after h
  obtain ⟨earlier, later, hsplit, hlocations⟩ := exists_split_of_dropRepeated h
  have hearlier : ∀ p ∈ earlier, tree.HasFile base p := fun p hp =>
    hfiles p (hsplit ▸ List.mem_append_left _ hp)
  have hbefore : ∀ p ∈ before, tree.HasFile base p := fun p hp =>
    hfiles p ((dropRepeated_sublist [] paths).subset (h ▸ List.mem_append_left _ hp))
  refine ⟨earlier, later, hsplit, fun g => ?_⟩
  rw [exists_sameFile_iff hearlier, exists_sameFile_iff hbefore]
  simpa using and_congr_right fun _ => hlocations (location tree base g)

/-! ## The search -/

theorem finds_dropRepeated {parts : List (List Path)}
    (hparts : List.Forall₂ (Part tree base) paths parts) :
    Finds tree base paths (dropRepeated tree base [] parts.flatten) := by
  have hfiles : ∀ p ∈ parts.flatten, tree.HasFile base p := fun p hp =>
    ((mem_parts_iff hparts).1 hp).hasFile
  have hkept : ∀ p ∈ dropRepeated tree base [] parts.flatten, tree.HasFile base p := fun p hp =>
    hfiles p ((dropRepeated_sublist [] _).subset hp)
  constructor
  · intro file hfile
    have hmem := (mem_parts_iff hparts).2 hfile
    rcases exists_mem_dropRepeated hmem [] with hseen | ⟨f, hf, heq⟩
    · exact absurd hseen List.not_mem_nil
    · exact ⟨f, hf, (sameFile_iff (hkept f hf) hfile.hasFile).2 heq⟩
  · exact fun f hf => (mem_parts_iff hparts).1 ((dropRepeated_sublist [] _).subset hf)
  · refine (pairwise_dropRepeated [] parts.flatten).imp_of_mem fun {p q} hp hq hne hsame => ?_
    exact hne ((sameFile_iff (hkept p hp) (hkept q hq)).1 hsame)
  · exact ⟨parts, hparts, isFirstOfEach_dropRepeated hfiles⟩

/-- The search ends as promised, for every tree and all arguments, just when it does not come to a
limit. If it does, it breaks off there. -/
theorem discover_asPromised_iff (tree : FileTree) (base : Location) (paths : List Path) :
    (AsPromised tree base paths (discover tree base defaultExtensions paths).1 ↔
      ¬ComesToLimit tree base paths) ∧
    ((∃ escape, IsLimit escape ∧
        (discover tree base defaultExtensions paths).1 = .error (.escaped escape)) ↔
      ComesToLimit tree base paths) := by
  have hpaths := expansions_expandAll tree base paths
  rw [discover]
  dsimp only
  generalize (expandAll tree base defaultExtensions paths).1 = result at hpaths ⊢
  cases hpaths with
  | obstructed hlimit h =>
    refine ⟨iff_of_false (fun hpromised => ?_) (not_not.2 h), iff_of_true ⟨_, hlimit, rfl⟩ h⟩
    cases hpromised
  | missing hfree hsplit hbefore hpath =>
    exact ⟨iff_of_true (.missing hsplit hbefore hpath) hfree,
      iff_of_false (by simp [Except.map]) hfree⟩
  | parts hfree husable hparts =>
    exact ⟨iff_of_true (.found husable (finds_dropRepeated hparts)) hfree,
      iff_of_false (by simp [Except.map]) hfree⟩

/-- A name that no file can have. -/
def longName : Text := List.replicate 256 ⟨0x6E⟩

/-- The search for a file with such a name is not refused, it breaks off. -/
theorem discover_breaksOff_longName :
    let path : Path := ⟨.relative, [longName]⟩
    (discover .empty [] defaultExtensions [path]).1 =
        .error (.escaped (.file .nameTooLong path.toText)) ∧
      ¬AsPromised .empty [] [path] (discover .empty [] defaultExtensions [path]).1 := by
  intro path
  have hdots : longName ≠ "." ∧ longName ≠ ".." := by decide
  have hlong : FileTree.isNameTooLong longName = true := by decide +kernel
  have hlookup : FileTree.empty.lookup [] path = .error .nameTooLong := by
    have hrefusal : refusal? path = none := by decide +kernel
    rw [lookup, find, hrefusal]
    simp [path, walk, hdots, hlong]
  have hresult : (discover .empty [] defaultExtensions [path]).1 =
      .error (.escaped (.file .nameTooLong path.toText)) := by
    simp [discover, expandAll, expand, hlookup, Except.map]
  refine ⟨hresult, ?_⟩
  rw [hresult]
  rintro ⟨⟩

end Listing

end Nomenclator

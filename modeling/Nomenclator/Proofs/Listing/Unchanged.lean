import Nomenclator.Proofs.Files.Linkless
import Nomenclator.Proofs.Listing.Parts
import Nomenclator.Proofs.Text.Basic

/-!
# Searches after result files were written

A result file stands beside the input it was made for and has a name that the search passes over. So
a search through directories finds the same as before, and every input is as it was, unless the path
of a new file is too long: the search asks about the file before it passes over the name.
-/

namespace Nomenclator

namespace FileTree

variable {tree tree' : FileTree} {directory : Location} {names : List Text} {name other : Text}

theorem walk_of_find_descend {base : Location} {path : Path} {follow : Bool} {place : Place}
    (h : tree.find base (path.descend (names ++ [name])) follow = .ok place) :
    tree.walk follow linkLimit (start base path) (path.names ++ names ++ [name]) = .ok place := by
  rw [List.append_assoc]
  exact (find_eq_ok_iff.1 h).2

theorem systemLength_append (s t : Text) :
    systemLength (s ++ t) = systemLength s + systemLength t := by
  simp [systemLength, systemBytes]

theorem systemLength_descend_le (p : Path) (name : Text) :
    systemLength (p.descend [name]).toText ≤ systemLength p.toText + 1 + systemLength name := by
  have hslash : systemLength [Path.slash] = 1 := by decide
  by_cases hnames : p.names = []
  · have htext : (p.descend [name]).toText = p.root.text ++ name := by
      simp [Path.toText, Path.descend, hnames, Text.join]
    have hroot : systemLength p.root.text ≤ systemLength p.toText + 1 := by
      unfold Path.toText
      rw [hnames]
      cases p.root <;> decide
    rw [htext, systemLength_append]
    omega
  · have htext : (p.descend [name]).toText = p.toText ++ ([Path.slash] ++ name) := by
      simp [Path.toText, Path.descend, hnames, Text.join_concat]
    rw [htext, systemLength_append, systemLength_append]
    omega

/-- There is room for a name behind the path, as long as the name is not too long itself. -/
def IsRoomy (p : Path) : Prop := systemLength p.toText + 1 + nameLimit ≤ pathLimit

instance (p : Path) : Decidable (IsRoomy p) := inferInstanceAs (Decidable (_ ≤ _))

theorem IsRoomy.refusal?_descend {p : Path} (h : IsRoomy p) (hname : ¬isNameTooLong name = true) :
    refusal? (p.descend [name]) ≠ some .nameTooLong := by
  have hfits : isPathTooLong (p.descend [name]) = false := by
    have hlength := systemLength_descend_le p name
    simp only [IsRoomy, isNameTooLong, isPathTooLong, decide_eq_true_eq,
      decide_eq_false_iff_not] at h hname ⊢
    omega
  unfold refusal?
  rw [hfits]
  split <;> simp

theorem Below.above (h : tree.Below directory (names ++ [name])) :
    names = [] ∨ tree.node? (directory ++ names) = some .directory := by
  induction names generalizing directory with
  | nil => exact .inl rfl
  | cons first names ih =>
    generalize hrest : first :: names ++ [name] = all at h
    cases h with
    | entry _ => simp at hrest
    | deeper hnode hbelow =>
      obtain ⟨rfl, rfl⟩ := List.cons.inj hrest
      rcases ih hbelow with rfl | hnames
      · exact .inr hnode
      · exact .inr (by simpa using hnames)

theorem Below.transfer (h : SameInner tree tree') (hbelow : tree.Below directory names)
    (hsome : (tree'.node? (directory ++ names)).isSome) : tree'.Below directory names := by
  induction hbelow with
  | entry _ => exact .entry hsome
  | deeper hnode _ ih => exact .deeper (h.node?_inner hnode (by simp)) (ih (by simpa using hsome))

theorem Below.sibling (h : tree.Below directory (names ++ [name]))
    (hsome : (tree.node? (directory ++ names ++ [other])).isSome) :
    tree.Below directory (names ++ [other]) := by
  induction names generalizing directory with
  | nil => exact .entry (by simpa using hsome)
  | cons first names ih =>
    generalize hrest : first :: names ++ [name] = all at h
    cases h with
    | entry _ => simp at hrest
    | deeper hnode hbelow =>
      obtain ⟨rfl, rfl⟩ := List.cons.inj hrest
      exact .deeper hnode (ih hbelow (by simpa using hsome))

end FileTree

namespace Listing

open FileTree

variable {tree before after : FileTree} {base l : Location} {paths inputs : List Path}
  {path file : Path} {names : List Text} {name : Text}

theorem ne_dots (h : (".c" : Text) <:+ name) : name ≠ "." ∧ name ≠ ".." := by
  constructor
  · rintro rfl
    revert h
    decide
  · rintro rfl
    revert h
    decide

theorem exists_above (hlinks : tree.HasNoLinks) (hname : (".c" : Text) <:+ name) {node : Node}
    (h : tree.lookup base (path.descend (names ++ [name])) = .ok (l, node)) :
    ∃ above, tree.walk true linkLimit (start base path) (path.names ++ names) =
        .ok (.node above .directory) ∧
      l = above ++ [name] := by
  have hwalk := walk_of_find_descend (lookup_eq_ok_iff.1 h)
  obtain ⟨above, habove, -, hl⟩ :=
    walk_concat_eq_ok hlinks (ne_dots hname).1 (ne_dots hname).2 hwalk
  exact ⟨above, habove, hl⟩

theorem outputPath?_descend (path : Path) (names : List Text) (name : Text) :
    outputPath? (path.descend (names ++ [name])) =
      some (path.descend (names ++ [Path.stemOf name ++ outputSuffix])) := by
  simp [outputPath?, Path.name?, Path.descend, ← List.append_assoc]

/-! ## Result files -/

/-- The file stands beside an input and has the name of a result file. -/
def IsResultBeside (tree : FileTree) (base : Location) (inputs : List Path) (l : Location) : Prop :=
  ∃ input ∈ inputs, ∃ above name content result,
    tree.lookup base input = .ok (above ++ [name], .file content) ∧
      l = above ++ [result] ∧ outputSuffix <:+ result ∧ ¬isNameTooLong result = true

theorem not_isResultBeside {above : Location} (h : ¬outputSuffix <:+ name) :
    ¬IsResultBeside tree base inputs (above ++ [name]) := by
  rintro ⟨_, -, _, _, _, result, -, hl, hresult, -⟩
  obtain ⟨-, hname⟩ := List.append_inj' hl rfl
  obtain rfl : name = result := by simpa using hname
  exact h hresult

theorem isResultBeside_of_opened (hlinks : before.HasNoLinks) (hsame : SameInner before after)
    {input output : Path} (hmem : input ∈ inputs) (hbelow : IsListingBelow before base path input)
    (houtput : outputPath? input = some output) {overwrite : Bool} {opened : FileTree}
    (hopen : after.openForWriting base output overwrite = .ok (l, opened)) :
    IsResultBeside before base inputs l := by
  obtain ⟨_, names, name, -, -, hname, rfl, l', content, hinput⟩ := hbelow
  obtain ⟨above, habove, rfl⟩ := exists_above hlinks hname.1 hinput
  rw [outputPath?_descend] at houtput
  injection houtput with houtput
  subst houtput
  have hsuffix : outputSuffix <:+ Path.stemOf name ++ outputSuffix := List.suffix_append _ _
  obtain ⟨hdot, hdots⟩ := ne_dots (List.IsSuffix.trans (by decide) hsuffix)
  obtain ⟨-, -, place, hfind, rfl⟩ := openForWriting_eq_ok hopen
  obtain ⟨above', habove', hshort, hplace⟩ :=
    walk_concat_eq_ok (hsame.hasNoLinks hlinks) hdot hdots (walk_of_find_descend hfind)
  have hback := walk_seen hsame.symm habove'
  rw [habove] at hback
  obtain rfl : above = above' := by simpa [seen] using hback
  exact ⟨_, hmem, above, name, content, _, hinput, hplace, hsuffix, hshort⟩

/-- There is room behind the path and behind those of all directories below it. -/
def HasRoom (tree : FileTree) (base : Location) (path : Path) : Prop :=
  ∀ directory names, tree.lookup base path = .ok (directory, .directory) →
    names = [] ∨ tree.node? (directory ++ names) = some .directory → IsRoomy (path.descend names)

/-- A path below an argument to something that was not there before. -/
def IsNewBelow (before after : FileTree) (base : Location) (path file : Path) : Prop :=
  ∃ directory names, after.lookup base path = .ok (directory, .directory) ∧
    after.Below directory names ∧ before.node? (directory ++ names) = none ∧
    file = path.descend names

/-! ## Searches -/

theorem exists_listingBelow_of_discover
    (hdirectories : ∀ path ∈ paths, tree.HasDirectory base path)
    (hfound : (discover tree base defaultExtensions paths).1 = .ok inputs) :
    ∀ input ∈ inputs, ∃ path ∈ paths, IsListingBelow tree base path input := by
  obtain ⟨-, -, parts, hparts, rfl⟩ := exists_parts_of_discover hfound
  intro input hinput
  have hmem := (dropRepeated_sublist [] _).subset hinput
  exact exists_listingBelow hdirectories ((mem_parts_iff hparts).1 hmem)

section

variable (hlinks : before.HasNoLinks)
  (h : WritesOnly (IsResultBeside before base inputs) before after)

include hlinks h

theorem lookup_listing (hbelow : IsListingBelow before base path file) :
    ∃ location content, before.lookup base file = .ok (location, .file content) ∧
      after.lookup base file = .ok (location, .file content) := by
  obtain ⟨_, names, name, -, -, hname, rfl, l, content, hfile⟩ := hbelow
  obtain ⟨above, -, rfl⟩ := exists_above hlinks hname.1 hfile
  obtain ⟨content', hfile', hsame⟩ := h.lookup_file hfile
  obtain rfl := hsame (not_isResultBeside hname.2)
  exact ⟨_, _, hfile, hfile'⟩

theorem isListingBelow_iff_of_writesOnly :
    IsListingBelow after base path file ↔ IsListingBelow before base path file := by
  constructor
  · rintro ⟨directory, names, name, hlookup, hbelow, hname, rfl, l, content, hfile⟩
    obtain ⟨above, -, rfl⟩ := exists_above (h.sameInner.hasNoLinks hlinks) hname.1 hfile
    have hsome : (before.node? (directory ++ (names ++ [name]))).isSome := by
      have hafter := hbelow.isSome
      rw [← List.append_assoc] at hafter ⊢
      rwa [h.node?_eq (not_isResultBeside hname.2)] at hafter
    exact ⟨directory, names, name, h.sameInner.symm.lookup_directory hlookup,
      hbelow.transfer h.sameInner.symm hsome, hname, rfl, _, content,
      h.lookup_of_after (not_isResultBeside hname.2) hfile⟩
  · rintro ⟨directory, names, name, hlookup, hbelow, hname, rfl, l, content, hfile⟩
    obtain ⟨content', hfile', -⟩ := h.lookup_file hfile
    exact ⟨directory, names, name, h.sameInner.lookup_directory hlookup,
      hbelow.transfer h.sameInner (h.isSome hbelow.isSome), hname, rfl, l, content', hfile'⟩

omit hlinks in
/-- What is new has the name of a listing, so the search asks about it. -/
theorem isObstructed_of_isNewBelow (hnew : IsNewBelow before after base path file)
    (hlong : refusal? file = some .nameTooLong) : IsObstructed after base path := by
  obtain ⟨directory, names, hlookup, hbelow, hnone, rfl⟩ := hnew
  rcases h (directory ++ names) with hsame | ⟨⟨_, -, above, _, _, result, -, hl, hsuffix, -⟩, -⟩
  · have hsome := hbelow.isSome
    rw [hsame, hnone] at hsome
    simp at hsome
  · obtain ⟨init, last, rfl⟩ := (List.eq_nil_or_concat' names).resolve_left hbelow.ne_nil
    rw [← List.append_assoc] at hl
    obtain ⟨-, hlast⟩ := List.append_inj' hl rfl
    obtain rfl : last = result := by simpa using hlast
    have hname : (".c" : Text) <:+ last := List.IsSuffix.trans (by decide) hsuffix
    exact .listing ⟨directory, init, last, hlookup, hbelow, hname, rfl⟩
      (isTooLong_iff.2 (.inl hlong))

omit hlinks in
theorem refusal?_of_hasRoom (hroom : HasRoom before base path)
    (hnew : IsNewBelow before after base path file) : refusal? file ≠ some .nameTooLong := by
  obtain ⟨directory, names, hlookup, hbelow, hnone, rfl⟩ := hnew
  rcases h (directory ++ names) with hsame | ⟨⟨_, -, above, _, _, result, -, hl, -, hshort⟩, -⟩
  · have hsome := hbelow.isSome
    rw [hsame, hnone] at hsome
    simp at hsome
  · obtain ⟨init, last, rfl⟩ := (List.eq_nil_or_concat' names).resolve_left hbelow.ne_nil
    rw [← List.append_assoc] at hl
    obtain rfl : last = result := by simpa using (List.append_inj' hl rfl).2
    have habove := hbelow.above.imp id fun hinit => h.sameInner.symm.node?_inner hinit (by simp)
    have hroomy := hroom directory init (h.sameInner.symm.lookup_directory hlookup) habove
    have hpath : path.descend (init ++ [last]) = (path.descend init).descend [last] := by
      simp [Path.descend]
    rw [hpath]
    exact hroomy.refusal?_descend hshort

/-- A new result file with a name that is too long is in the way only where its input was. -/
theorem not_isObstructed_of_writesOnly
    (hinputs : ∀ input ∈ inputs, ∃ path, IsListingBelow before base path input)
    (hfree : ¬IsObstructed before base path)
    (hnew : ∀ file, IsNewBelow before after base path file → refusal? file ≠ some .nameTooLong) :
    ¬IsObstructed after base path := by
  intro hobstructed
  cases hobstructed with
  | argument hlong => exact hfree (.argument (h.sameInner.symm.isTooLong hlong))
  | directory hlookup hbelow hnode hfar =>
    have hnode' := h.sameInner.symm.node?_inner hnode (by simp)
    have hbelow' := hbelow.transfer h.sameInner.symm (by rw [hnode']; rfl)
    exact hfree (.directory (h.sameInner.symm.lookup_directory hlookup) hbelow' hnode' hfar)
  | listing hmatch hlong =>
    obtain ⟨directory, names, name, hlookup, hbelow, hname, rfl⟩ := hmatch
    have hlong' := h.sameInner.symm.isTooLong hlong
    have hdirectory := h.sameInner.symm.lookup_directory hlookup
    cases hnode : before.node? (directory ++ (names ++ [name])) with
    | some node =>
      have hbelow' := hbelow.transfer h.sameInner.symm (by rw [hnode]; rfl)
      exact hfree (.listing ⟨directory, names, name, hdirectory, hbelow', hname, rfl⟩ hlong')
    | none =>
      obtain ⟨hrefusal, hwalk⟩ := (isTooLong_iff.1 hlong').resolve_left
        (hnew _ ⟨directory, _, hlookup, hbelow, hnode, rfl⟩)
      rcases h (directory ++ (names ++ [name])) with hsame | ⟨hresult, -⟩
      · have hsome := hbelow.isSome
        rw [hsame, hnode] at hsome
        simp at hsome
      · obtain ⟨input, hinput, above, other, content, result, hfile, hl, -, hshort⟩ := hresult
        rw [← List.append_assoc] at hl
        obtain ⟨rfl, hlast⟩ := List.append_inj' hl rfl
        obtain rfl : name = result := by simpa using hlast
        obtain ⟨hother, hsystem⟩ : (".c" : Text) <:+ other ∧ isSystemText other = true := by
          obtain ⟨path', _, _, name', -, -, hname', rfl, -⟩ := hinputs input hinput
          obtain ⟨above', -, hlocation⟩ := exists_above hlinks hname'.1 hfile
          obtain ⟨-, heq⟩ := List.append_inj' hlocation rfl
          obtain rfl : other = name' := by simpa using heq
          have hnone := (find_eq_ok_iff.1 (lookup_eq_ok_iff.1 hfile)).1
          exact ⟨hname'.1, isSystemText_of_refusal?_eq_none hnone _ (by simp [Path.descend])⟩
        have hinputNode : (before.node? (directory ++ names ++ [other])).isSome := by
          rw [node?_of_lookup_file hfile]
          rfl
        have hbelow' := (hbelow.sibling (h.isSome hinputNode)).transfer h.sameInner.symm
          (by simpa using hinputNode)
        -- the input comes to the name that is too long, or its path is too long itself
        refine hfree (.listing ⟨directory, names, other, hdirectory, hbelow', hother, rfl⟩ ?_)
        have hnames : ∀ name ∈ (path.descend (names ++ [other])).names,
            isSystemText name = true := by
          have hall := isSystemText_of_refusal?_eq_none hrefusal
          simp only [Path.descend, List.forall_mem_append, List.forall_mem_singleton] at hall ⊢
          exact ⟨hall.1, hall.2.1, hsystem⟩
        rw [isTooLong_iff, refusal?_of_isSystemText hnames]
        split
        · exact .inl rfl
        · refine .inr ⟨rfl, ?_⟩
          simp only [Path.descend, ← List.append_assoc] at hwalk ⊢
          exact walk_nameTooLong_of_concat hlinks (ne_dots hname).1 (ne_dots hname).2 hshort hwalk
            (List.cons_ne_nil _ _)

theorem discover_of_writesOnly (hdirectories : ∀ path ∈ paths, before.HasDirectory base path)
    (hnew : ∀ path ∈ paths, ∀ file, IsNewBelow before after base path file →
      refusal? file ≠ some .nameTooLong)
    (hfound : (discover before base defaultExtensions paths).1 = .ok inputs) :
    (discover after base defaultExtensions paths).1 = .ok inputs := by
  have hlistings := exists_listingBelow_of_discover hdirectories hfound
  obtain ⟨hshort, husable, -⟩ := exists_parts_of_discover hfound
  rw [comesToLimit_iff husable] at hshort
  apply discover_congr hdirectories _ _ _ _ hfound
  · intro path hpath
    obtain ⟨directory, hdirectory⟩ := hdirectories path hpath
    exact ⟨directory, h.sameInner.lookup_directory hdirectory⟩
  · exact fun _ _ => isListingBelow_iff_of_writesOnly hlinks h
  · intro path hpath
    apply not_isObstructed_of_writesOnly hlinks h _ _ (hnew path hpath)
    · intro input hinput
      obtain ⟨path', -, hbelow⟩ := hlistings input hinput
      exact ⟨path', hbelow⟩
    · exact fun hobstructed => hshort ⟨path, hpath, hobstructed⟩
  · intro path file hbelow
    obtain ⟨location, content, hbefore, hafter⟩ := lookup_listing hlinks h hbelow
    rw [Listing.location, Listing.location, hbefore, hafter]

end

end Listing

end Nomenclator

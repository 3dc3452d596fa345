import Nomenclator.Listing.Discovery
import Nomenclator.Proofs.Files.Questions
import Nomenclator.Proofs.Text.Utf8

/-!
# What is found

Whatever the search finds is a file. Files that are named one by one are found as they stand, and a
text that was encoded is read as it was.
-/

namespace Nomenclator

namespace Listing

variable {tree : FileTree} {base : Location} {exts : List Text}

theorem mem_filesAmong_iff {paths files : List Path} (h : filesAmong tree base paths = .ok files)
    {file : Path} : file ∈ files ↔ file ∈ paths ∧ tree.HasFile base file := by
  induction paths generalizing files with
  | nil =>
    injection h with h
    subst h
    simp
  | cons path rest ih =>
    unfold filesAmong at h
    cases hfile : tree.isFile base path with
    | error error => simp [hfile] at h
    | ok isFile =>
      cases hrest : filesAmong tree base rest with
      | error escape => simp [hfile, hrest, Except.map] at h
      | ok more =>
        simp only [hfile, hrest, Except.map] at h
        injection h with h
        subst h
        cases isFile with
        | true =>
          have hpath := FileTree.isFile_eq_true_iff.1 hfile
          rw [if_pos rfl, List.mem_cons, List.mem_cons, ih hrest, or_and_right]
          exact or_congr_left (iff_self_and.2 fun heq => heq ▸ hpath)
        | false =>
          have hpath : ¬tree.HasFile base path := fun hpath => by
            simp [FileTree.isFile_eq_true_iff.2 hpath] at hfile
          rw [if_neg Bool.false_ne_true, ih hrest, List.mem_cons, or_and_right]
          exact (or_iff_right fun ⟨heq, hfile⟩ => hpath (heq ▸ hfile)).symm

/-- The files below a directory that an extension stands for, but for result files. -/
theorem mem_listingsBelow_iff {path file : Path} {directory : Location} {ext : Text}
    {found : List Path} (h : listingsBelow tree base path directory ext = .ok found) :
    file ∈ found ↔ file ∈ matchesBelow tree path directory ext ∧ tree.HasFile base file ∧
      isResultFile file = false := by
  unfold listingsBelow at h
  split at h
  · simp at h
  · split at h
    · simp at h
    · cases hfiles : filesAmong tree base (matchesBelow tree path directory ext) with
      | error escape => simp [hfiles, Except.map] at h
      | ok files =>
        simp only [hfiles, Except.map] at h
        injection h with h
        subst h
        rw [List.mem_filter, mem_filesAmong_iff hfiles, Bool.not_eq_true', and_assoc]

theorem hasFile_of_listingsFor {path : Path} {directory : Location} {found : List Path}
    (h : listingsFor tree base path directory exts = .ok found) :
    ∀ file ∈ found, tree.HasFile base file := by
  induction exts generalizing found with
  | nil =>
    injection h with h
    subst h
    simp
  | cons ext rest ih =>
    unfold listingsFor at h
    split at h
    · simp at h
    · next files hfiles =>
      cases hmore : listingsFor tree base path directory rest with
      | error escape => simp [hmore, Except.map] at h
      | ok more =>
        simp only [hmore, Except.map] at h
        injection h with h
        subst h
        intro file hfile
        rcases List.mem_append.1 hfile with hfile | hfile
        · exact ((mem_listingsBelow_iff hfiles).1 hfile).2.1
        · exact ih hmore file hfile

theorem hasFile_of_expand {path : Path} {found : List Path}
    (h : (expand tree base exts path).1 = .ok found) : ∀ file ∈ found, tree.HasFile base file := by
  intro file hfile
  unfold expand at h
  split at h
  · split at h
    · simp at h
    · next files hfiles =>
      injection h with h
      subst h
      rw [List.mem_mergeSort] at hfile
      exact hasFile_of_listingsFor hfiles file hfile
  · next location content hlookup =>
    injection h with h
    subst h
    rw [List.mem_singleton] at hfile
    subst hfile
    exact ⟨location, content, hlookup⟩
  · simp at h
  · simp at h

theorem hasFile_of_expandAll {paths found : List Path}
    (h : (expandAll tree base exts paths).1 = .ok found) :
    ∀ file ∈ found, tree.HasFile base file := by
  induction paths generalizing found with
  | nil =>
    injection h with h
    subst h
    simp
  | cons path rest ih =>
    unfold expandAll at h
    split at h
    · simp at h
    · next files log hexpand =>
      cases hmore : (expandAll tree base exts rest).1 with
      | error halt => simp [hmore, Except.map] at h
      | ok more =>
        simp only [hmore, Except.map] at h
        injection h with h
        subst h
        intro file hfile
        rcases List.mem_append.1 hfile with hfile | hfile
        · exact hasFile_of_expand (by rw [hexpand]) file hfile
        · exact ih hmore file hfile

theorem dropRepeated_sublist (seen : List Location) (paths : List Path) :
    (dropRepeated tree base seen paths).Sublist paths := by
  induction paths generalizing seen with
  | nil => exact List.Sublist.slnil
  | cons path rest ih =>
    unfold dropRepeated
    dsimp only
    split
    · exact (ih seen).cons path
    · exact (ih _).cons_cons path

theorem hasFile_of_discover {paths found : List Path}
    (h : (discover tree base exts paths).1 = .ok found) :
    ∀ file ∈ found, tree.HasFile base file := by
  unfold discover at h
  dsimp only at h
  cases hall : (expandAll tree base exts paths).1 with
  | error halt => simp [hall, Except.map] at h
  | ok all =>
    simp only [hall, Except.map] at h
    injection h with h
    subst h
    intro file hfile
    exact hasFile_of_expandAll hall file ((dropRepeated_sublist [] all).subset hfile)

/-! ## Files that are named -/

theorem expandAll_of_files {paths : List Path} (h : ∀ path ∈ paths, tree.HasFile base path) :
    (expandAll tree base exts paths).1 = .ok paths := by
  induction paths with
  | nil => rfl
  | cons path rest ih =>
    obtain ⟨⟨location, content, hlookup⟩, hrest⟩ := List.forall_mem_cons.1 h
    have hexpand : expand tree base exts path = (.ok [path], []) := by rw [expand, hlookup]
    simp only [expandAll, hexpand, ih hrest, Except.map, List.singleton_append]

theorem dropRepeated_of_nodup {seen : List Location} {paths : List Path}
    (hdistinct : (paths.map (location tree base)).Nodup)
    (hnew : ∀ path ∈ paths, location tree base path ∉ seen) :
    dropRepeated tree base seen paths = paths := by
  induction paths generalizing seen with
  | nil => rfl
  | cons path rest ih =>
    obtain ⟨hother, hdistinct⟩ := List.nodup_cons.1 hdistinct
    obtain ⟨hpath, hrest⟩ := List.forall_mem_cons.1 hnew
    have hnew' : ∀ file ∈ rest, location tree base file ∉ location tree base path :: seen := by
      refine fun file hfile => List.not_mem_cons_of_ne_of_not_mem ?_ (hrest file hfile)
      exact fun hsame => hother (hsame ▸ List.mem_map_of_mem hfile)
    simp [dropRepeated, hpath, ih hdistinct hnew']

theorem discover_of_files {paths : List Path} (hfiles : ∀ path ∈ paths, tree.HasFile base path)
    (hdistinct : (paths.map (location tree base)).Nodup) :
    (discover tree base exts paths).1 = .ok paths := by
  have hkept : dropRepeated tree base [] paths = paths :=
    dropRepeated_of_nodup hdistinct fun _ _ => List.not_mem_nil
  simp only [discover, expandAll_of_files hfiles, Except.map, hkept]

theorem read_of_isStable {path : Path} {text : Text}
    (h : tree.read base path = .ok (Utf8.bytesOf text)) (hstable : ∀ r ∈ text, Utf8.IsStable r)
    (hencodable : Utf8.isEncodable text = true) : read tree base path = .ok text := by
  rw [read, h]
  exact congrArg Except.ok (Utf8.unifyLineEnds_decodeReplacing hstable hencodable)

end Listing

end Nomenclator

import Nomenclator.Files.Tree

/-!
# What a path leads to

A question about a path is answered by what the path leads to. Only a name or a path that is too
long leaves it without an answer.
-/

namespace Nomenclator.FileTree

/-- The path leads to a file, be it a locked one. -/
def HasFile (tree : FileTree) (base : Location) (path : Path) : Prop :=
  ∃ location content, tree.lookup base path = .ok (location, .file content)

/-- The path leads to a directory. -/
def HasDirectory (tree : FileTree) (base : Location) (path : Path) : Prop :=
  ∃ location, tree.lookup base path = .ok (location, .directory)

/-- The path leads to a directory or a file. -/
def IsUsable (tree : FileTree) (base : Location) (path : Path) : Prop :=
  tree.HasDirectory base path ∨ tree.HasFile base path

/-- The path is too long, or leads to a name that is. -/
def IsTooLong (tree : FileTree) (base : Location) (path : Path) : Prop :=
  tree.lookup base path = .error .nameTooLong

/-- The path leads to a file that cannot be opened. -/
def IsLocked (tree : FileTree) (base : Location) (path : Path) : Prop :=
  ∃ location error, tree.lookup base path = .ok (location, .file (.locked error))

variable {tree : FileTree} {base : Location} {path : Path}

theorem not_hasFile_of_hasDirectory (h : tree.HasDirectory base path) :
    ¬tree.HasFile base path := by
  obtain ⟨location, h⟩ := h
  rintro ⟨location', content, h'⟩
  simp [h] at h'

theorem askWhether_eq_error_iff {p : Node → Bool} {error : FileError} :
    askWhether p (tree.lookup base path) = .error error ↔
      error = .nameTooLong ∧ tree.IsTooLong base path := by
  unfold IsTooLong
  cases hlookup : tree.lookup base path with
  | error e => cases e <;> simp [askWhether, eq_comm]
  | ok found => simp [askWhether]

theorem isFile_eq_true_iff : tree.isFile base path = .ok true ↔ tree.HasFile base path := by
  unfold isFile HasFile
  cases hlookup : tree.lookup base path with
  | error e => cases e <;> simp [askWhether]
  | ok found =>
    obtain ⟨location, node⟩ := found
    cases node <;> simp [askWhether]

theorem isFile_eq_error_iff {error : FileError} :
    tree.isFile base path = .error error ↔ error = .nameTooLong ∧ tree.IsTooLong base path :=
  askWhether_eq_error_iff

theorem pathExists_eq_error_iff {error : FileError} :
    tree.pathExists base path = .error error ↔ error = .nameTooLong ∧ tree.IsTooLong base path :=
  askWhether_eq_error_iff

theorem read_of_not_pathExists (h : tree.pathExists base path = .ok false) :
    ∃ error, tree.read base path = .error error := by
  unfold pathExists at h
  unfold read
  cases hlookup : tree.lookup base path with
  | error error => exact ⟨error, rfl⟩
  | ok found => simp [hlookup, askWhether] at h

theorem pathExists_of_read {bytes : Utf8.Bytes} (h : tree.read base path = .ok bytes) :
    tree.pathExists base path = .ok true := by
  unfold read at h
  unfold pathExists
  cases hlookup : tree.lookup base path with
  | error error => simp [hlookup] at h
  | ok found => rfl

end Nomenclator.FileTree

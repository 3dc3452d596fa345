import Nomenclator.Output.Writer
import Nomenclator.Proofs.Files.Tree

/-!
# What writers keep

A writer touches the tree in two ways only: it opens its file, and it puts bytes into the file that
it has opened. What both of these keep is kept by everything that is done with a writer.
-/

namespace Nomenclator

namespace Writer

/-- Opening the path keeps a property of trees, and so does putting bytes where a file was opened;
`own` is what is known of such a location. -/
structure Keeps (holds : FileTree → Prop) (own : Location → Prop) (base : Location) (path : Path)
    (overwrite : Bool) : Prop where
  opens : ∀ {tree l opened}, holds tree →
    tree.openForWriting base path overwrite = .ok (l, opened) → holds opened ∧ own l
  writes : ∀ {tree l}, holds tree → own l → ∀ offset bytes, holds (tree.writeAt l offset bytes)

/-- The file of a writer, once it is open, is at a location of its own. -/
def Owns (w : Writer) (own : Location → Prop) : Prop := ∀ handle ∈ w.handle, own handle.location

variable {w : Writer} {holds : FileTree → Prop} {own : Location → Prop} {tree : FileTree}
  {base : Location}

theorem owns_new (path : Path) (overwrite : Bool) (own : Location → Prop) :
    (new path overwrite).Owns own := by
  intro handle hhandle
  simp [new] at hhandle

theorem owns_some {path : Path} {overwrite : Bool} {written : Nat} {handle : Handle}
    (h : own handle.location) : (⟨path, overwrite, written, some handle⟩ : Writer).Owns own := by
  intro handle' hhandle
  injection hhandle with hhandle
  exact hhandle ▸ h

theorem write_path (w : Writer) (tree : FileTree) (base : Location) (a : Analysis)
    (separator : Text) : (w.write tree base a separator).writer.path = w.path := by
  unfold write
  split
  · rfl
  · split <;> rfl

theorem write_overwrite (w : Writer) (tree : FileTree) (base : Location) (a : Analysis)
    (separator : Text) : (w.write tree base a separator).writer.overwrite = w.overwrite := by
  unfold write
  split
  · rfl
  · split <;> rfl

theorem Keeps.ready (h : Keeps holds own base w.path w.overwrite) (htree : holds tree)
    (hw : w.Owns own) {handle : Handle} {pieces : List Text} {tree' : FileTree}
    (hready : w.ready tree base = .ok (handle, pieces, tree')) :
    holds tree' ∧ own handle.location := by
  unfold Writer.ready at hready
  split at hready
  · next handle' hhandle =>
    injection hready with hready
    injection hready with hhandle' hrest
    injection hrest with _ htree'
    subst hhandle' htree'
    exact ⟨htree, hw _ hhandle⟩
  · split at hready
    · next l opened hopen =>
      injection hready with hready
      injection hready with hhandle' hrest
      injection hrest with _ htree'
      subst hhandle' htree'
      exact h.opens htree hopen
    · simp at hready

theorem Keeps.write (h : Keeps holds own base w.path w.overwrite) (htree : holds tree)
    (hw : w.Owns own) (a : Analysis) (separator : Text) :
    holds (w.write tree base a separator).tree ∧
      (w.write tree base a separator).writer.Owns own := by
  unfold Writer.write
  split
  · exact ⟨htree, hw⟩
  · next handle pieces tree' hready =>
    obtain ⟨htree', hlocation⟩ := h.ready htree hw hready
    split
    · exact ⟨htree', owns_some hlocation⟩
    · exact ⟨h.writes htree' hlocation _ _, owns_some hlocation⟩

theorem Keeps.close {path : Path} {overwrite : Bool} (h : Keeps holds own base path overwrite)
    (htree : holds tree) (hw : w.Owns own) : holds (w.close tree).2.1 := by
  unfold Writer.close
  split
  · exact htree
  · next handle hhandle => exact h.writes htree (hw handle hhandle) _ _

theorem Keeps.writeEach (h : Keeps holds own base w.path w.overwrite) (htree : holds tree)
    (hw : w.Owns own) (analyses : List Analysis) :
    holds (w.writeEach tree base analyses).tree ∧
      (w.writeEach tree base analyses).writer.Owns own := by
  induction analyses generalizing w tree with
  | nil => exact ⟨htree, hw⟩
  | cons a rest ih =>
    obtain ⟨htree', hw'⟩ := h.write htree hw a []
    unfold Writer.writeEach
    dsimp only
    split
    · exact ⟨htree', hw'⟩
    · refine ih ?_ htree' hw'
      rwa [write_path, write_overwrite]

end Writer

end Nomenclator

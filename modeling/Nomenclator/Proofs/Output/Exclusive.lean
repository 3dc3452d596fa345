import Nomenclator.Proofs.Files.Creation
import Nomenclator.Proofs.Output.Invariant

/-!
# Writers that do not overwrite

Such a writer opens a file only where nothing was, so whatever it writes goes into a file of its own
making. That holds for any number of writers at work on one tree.
-/

namespace Nomenclator

open FileTree

namespace Writer

/-! ## One writer -/

/-- A writer that does not overwrite. Its file, once open, is at a name that was free `before`;
`may` says at which names it may make one. -/
structure Careful (w : Writer) (base : Location) (may : Location → Prop) (before : FileTree) :
    Prop where
  exclusive : w.overwrite = false
  opened : ∀ handle ∈ w.handle, before.IsFreeAt base w.path handle.location ∧ may handle.location

variable {w : Writer} {base : Location} {may may' : Location → Prop} {before tree : FileTree}

theorem careful_new (path : Path) : (new path false).Careful base may before where
  exclusive := rfl
  opened := by simp [new]

theorem Careful.mono (h : w.Careful base may before) (hmay : ∀ l, may l → may' l) :
    w.Careful base may' before where
  exclusive := h.exclusive
  opened := fun handle hhandle => (h.opened handle hhandle).imp id (hmay _)

theorem keeps_onlyCreates {path : Path} (hmay : ∀ l, before.IsFreeAt base path l → may l) :
    Keeps (OnlyCreates may before) (fun l => before.IsFreeAt base path l ∧ may l) base path
      false where
  opens := by
    intro tree l opened htree hopen
    obtain ⟨rfl, hfree⟩ := openForWriting_exclusive hopen
    have hbefore := htree.isFreeAt hfree
    exact ⟨htree.put hbefore.node? (hmay l hbefore) _, hbefore, hmay l hbefore⟩
  writes := fun htree ⟨hfree, hl⟩ => htree.writeAt hfree.node? hl

theorem Careful.write (h : w.Careful base may before)
    (hmay : ∀ l, before.IsFreeAt base w.path l → may l) (htree : OnlyCreates may before tree)
    (a : Analysis) (separator : Text) :
    OnlyCreates may before (w.write tree base a separator).tree ∧
      (w.write tree base a separator).writer.Careful base may before := by
  have hkeeps := keeps_onlyCreates hmay
  rw [← h.exclusive] at hkeeps
  obtain ⟨htree', hopened⟩ := hkeeps.write htree h.opened a separator
  refine ⟨htree', (write_overwrite _ _ _ _ _).trans h.exclusive, ?_⟩
  rwa [write_path]

theorem Careful.close (h : w.Careful base may before) (htree : OnlyCreates may before tree) :
    OnlyCreates may before (w.close tree).2.1 ∧ (w.close tree).1.Careful base may before := by
  unfold Writer.close
  split
  · exact ⟨htree, h⟩
  · next handle hhandle =>
    obtain ⟨hfree, hmay⟩ := h.opened handle hhandle
    exact ⟨htree.writeAt hfree.node? hmay _ _, h.exclusive, by simp⟩

theorem onlyCreates_writeAnalyses {path : Path}
    (hmay : ∀ l, before.IsFreeAt base path l → may l) (htree : OnlyCreates may before tree)
    (analyses : List Analysis) :
    OnlyCreates may before (writeAnalyses path false tree base analyses).2.1 := by
  have hkeeps := keeps_onlyCreates hmay
  have hnew := owns_new path false fun l => before.IsFreeAt base path l ∧ may l
  obtain ⟨htree', hopened⟩ := hkeeps.writeEach htree hnew analyses
  exact hkeeps.close htree' hopened

/-! ## Writers with something in their way -/

/-- What a write leaves that finds something in its way. -/
def refused (w : Writer) (tree : FileTree) : Step :=
  ⟨.error (.failed (.input (.wouldOverwrite w.path.toText))), w, tree⟩

theorem write_of_present (hexclusive : w.overwrite = false) (hclosed : w.handle = none)
    {l : Location} {node : Node} (hfind : tree.find base w.path false = .ok (.node l node))
    (a : Analysis) (separator : Text) : w.write tree base a separator = w.refused tree := by
  have hopen : tree.openForWriting base w.path w.overwrite = .error .present := by
    rw [hexclusive, openForWriting, hfind]
    rfl
  rw [Writer.write, Writer.ready, hclosed, hopen]
  rfl

/-- What was there before is in the way for good: the writer cannot have opened its file. -/
theorem Careful.write_of_present (h : w.Careful base may before)
    (htree : OnlyCreates may before tree) {l : Location} {node : Node}
    (hfind : before.find base w.path false = .ok (.node l node)) (a : Analysis)
    (separator : Text) : w.write tree base a separator = w.refused tree := by
  have hclosed : w.handle = none := by
    cases hhandle : w.handle with
    | none => rfl
    | some handle =>
      have hfree := (h.opened handle hhandle).1
      rw [IsFreeAt, hfind] at hfree
      simp at hfree
  exact Writer.write_of_present h.exclusive hclosed (htree.find hfind) a separator

end Writer

/-! ## Many writers -/

/-- Writers at work on one tree, numbered in the order in which they were made. `targets` are the
paths of those that were written to. -/
structure Workshop where
  tree : FileTree
  writers : List Writer
  targets : List Path

namespace Workshop

/-- What can be done with writers. `saveAll` makes a writer, writes to it and closes it. -/
inductive Act where
  | make (path : Path)
  | write (number : Nat) (a : Analysis) (separator : Text)
  | close (number : Nat)
  | saveAll (path : Path) (analyses : List Analysis)

def empty (tree : FileTree) : Workshop := ⟨tree, [], []⟩

/-- One act, with what the one who asked for it is told. -/
def act (overwrite : Bool) (base : Location) (s : Workshop) : Act → Except Halt Unit × Workshop
  | .make path => (.ok (), { s with writers := s.writers ++ [.new path overwrite] })
  | .write number a separator =>
    match s.writers[number]? with
    | none => (.ok (), s)
    | some w =>
      let step := w.write s.tree base a separator
      (step.result, ⟨step.tree, s.writers.set number step.writer, s.targets ++ [w.path]⟩)
  | .close number =>
    match s.writers[number]? with
    | none => (.ok (), s)
    | some w =>
      let (w, tree, _) := w.close s.tree
      (.ok (), { s with tree, writers := s.writers.set number w })
  | .saveAll path analyses =>
    let (result, tree, _) := writeAnalyses path overwrite s.tree base analyses
    (result.map fun _ => (),
      { s with tree, targets := if analyses.isEmpty then s.targets else s.targets ++ [path] })

def acts (overwrite : Bool) (base : Location) (s : Workshop) (list : List Act) : Workshop :=
  list.foldl (fun s a => (s.act overwrite base a).2) s

/-- A free name to which the path of a writer leads that was written to. -/
def MayCreate (s : Workshop) (base : Location) (before : FileTree) (l : Location) : Prop :=
  ∃ path ∈ s.targets, before.IsFreeAt base path l

/-- Nothing that was there `before` has changed, and every writer works at a name that was free. -/
structure Safe (s : Workshop) (base : Location) (before : FileTree) : Prop where
  tree : OnlyCreates (s.MayCreate base before) before s.tree
  writers : ∀ w ∈ s.writers, w.Careful base (s.MayCreate base before) before

/-- All that was there `before` is as it was, new files are where some writer was told to write, and
a writer whose path led to something before refuses to write. -/
structure KeepsExisting (s : Workshop) (base : Location) (before : FileTree) : Prop where
  tree : FileTree.KeepsExisting (· ∈ s.targets) base before s.tree
  refuses : ∀ w ∈ s.writers, ∀ l node, before.find base w.path false = .ok (.node l node) →
    ∀ a separator, w.write s.tree base a separator = w.refused s.tree

variable {s : Workshop} {base : Location} {before : FileTree}

theorem safe_empty (base : Location) (before : FileTree) : (empty before).Safe base before where
  tree := OnlyCreates.refl _ _
  writers := by simp [empty]

theorem Safe.withTarget (h : s.Safe base before) (path : Path) :
    ({ s with targets := s.targets ++ [path] } : Workshop).Safe base before := by
  have hmore : ∀ l, s.MayCreate base before l →
      ({ s with targets := s.targets ++ [path] } : Workshop).MayCreate base before l :=
    fun l ⟨p, hp, hl⟩ => ⟨p, List.mem_append_left _ hp, hl⟩
  exact ⟨h.tree.mono hmore, fun w hw => (h.writers w hw).mono hmore⟩

theorem mayCreate_last (s : Workshop) {path : Path} :
    ∀ l, before.IsFreeAt base path l →
      ({ s with targets := s.targets ++ [path] } : Workshop).MayCreate base before l :=
  fun _ hl => ⟨path, List.mem_append_right _ (List.mem_singleton_self path), hl⟩

theorem Safe.set (h : s.Safe base before) (number : Nat) {w : Writer} {tree : FileTree}
    (htree : OnlyCreates (s.MayCreate base before) before tree)
    (hw : w.Careful base (s.MayCreate base before) before) :
    ({ s with tree, writers := s.writers.set number w } : Workshop).Safe base before where
  tree := htree
  writers := fun w' hw' => (List.mem_or_eq_of_mem_set hw').elim (h.writers w') (· ▸ hw)

theorem Safe.act (h : s.Safe base before) (a : Act) :
    (s.act false base a).2.Safe base before := by
  cases a with
  | make path =>
    refine ⟨h.tree, fun w hw => ?_⟩
    rcases List.mem_append.1 hw with hw | hw
    · exact h.writers w hw
    · obtain rfl := List.mem_singleton.1 hw
      exact Writer.careful_new path
  | write number a separator =>
    unfold Workshop.act
    dsimp only
    split
    · exact h
    · next w hw =>
      -- the path of the writer counts as one to write to from now on, which takes nothing away
      have h' := h.withTarget w.path
      obtain ⟨htree, hw'⟩ :=
        (h'.writers w (List.mem_of_getElem? hw)).write (mayCreate_last s) h'.tree a separator
      exact h'.set number htree hw'
  | close number =>
    unfold Workshop.act
    dsimp only
    split
    · exact h
    · next w hw =>
      obtain ⟨htree, hw'⟩ := (h.writers w (List.mem_of_getElem? hw)).close h.tree
      exact h.set number htree hw'
  | saveAll path analyses =>
    unfold Workshop.act
    dsimp only
    split
    · next hempty =>
      obtain rfl := List.isEmpty_iff.1 hempty
      exact h
    · have h' := h.withTarget path
      exact ⟨Writer.onlyCreates_writeAnalyses (mayCreate_last s) h'.tree analyses, h'.writers⟩

theorem Safe.acts (h : s.Safe base before) (list : List Act) :
    (s.acts false base list).Safe base before := by
  induction list generalizing s with
  | nil => exact h
  | cons a rest ih => exact ih (h.act a)

theorem Safe.keepsExisting (h : s.Safe base before) : s.KeepsExisting base before where
  tree := OnlyCreates.keepsExisting h.tree
  refuses := fun w hw _ _ hfind => (h.writers w hw).write_of_present h.tree hfind

end Workshop

end Nomenclator

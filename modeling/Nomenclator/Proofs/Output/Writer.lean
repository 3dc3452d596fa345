import Nomenclator.Output.Writer
import Nomenclator.Proofs.Files.Creation
import Nomenclator.Proofs.Text.Basic
import Nomenclator.Proofs.Text.Utf8

/-!
# What a writer leaves in its file

After each block the file holds all blocks so far, with a line feed between each two, and no other
node of the tree has changed. A block that cannot be encoded ends this.
-/

namespace Nomenclator

namespace Writer

open Utf8

/-! ## Blocks -/

/-- The block of an analysis as one text. -/
def blockText (separator : Text) (a : Analysis) : Text := (blockPieces separator a).flatten

theorem blockText_ne_nil (separator : Text) (a : Analysis) : blockText separator a ≠ [] := by
  have hopening : Comment.standard a.suggestion.name a.suggestion.description ≠ [] := by
    rw [Comment.standard, Comment.block, Text.concat]
    simp [Text.ofString]
  rw [blockText, blockPieces, List.flatten_append, List.flatten_cons]
  simp [hopening]

/-- Blocks with a line feed between each two, as bytes. -/
def content (blocks : List Text) : Bytes := bytesOf (Text.join [⟨0x0A⟩] blocks)

theorem content_concat (block : Text) {blocks : List Text} (h : blocks ≠ []) :
    content (blocks ++ [block]) = content blocks ++ bytesOf ([⟨0x0A⟩] ++ block) := by
  rw [content, content, Text.join_concat _ _ h, List.append_assoc, bytesOf_append]

theorem addPieces_of_isEncodable {pieces : List Text} (h : isEncodable pieces.flatten = true)
    (pending : Bytes) : addPieces pending pieces = (pending ++ bytesOf pieces.flatten, none) := by
  induction pieces generalizing pending with
  | nil => simp [addPieces, bytesOf]
  | cons piece rest ih =>
    rw [List.flatten_cons, isEncodable_append, Bool.and_eq_true] at h
    rw [addPieces, encode_of_isEncodable h.1]
    simp only
    rw [ih h.2, List.flatten_cons, bytesOf_append, List.append_assoc]

/-- What keeps a block from being written does not depend on what is written before it. -/
theorem addPieces_problem (pending : Bytes) (pieces : List Text) :
    (addPieces pending pieces).2 = (addPieces [] pieces).2 := by
  induction pieces generalizing pending with
  | nil => rfl
  | cons piece rest ih =>
    rw [addPieces, addPieces]
    cases encode piece with
    | error problem => rfl
    | ok bytes => exact (ih _).trans (ih _).symm

theorem addPieces_problem_append {before : List Text} (h : isEncodable before.flatten = true)
    (pieces : List Text) : (addPieces [] (before ++ pieces)).2 = (addPieces [] pieces).2 := by
  induction before with
  | nil => rfl
  | cons piece rest ih =>
    rw [List.flatten_cons, isEncodable_append, Bool.and_eq_true] at h
    rw [List.cons_append, addPieces, encode_of_isEncodable h.1]
    exact (addPieces_problem _ _).trans (ih h.2)

theorem addPieces_problem_eq_none_iff (pieces : List Text) :
    (addPieces [] pieces).2 = none ↔ isEncodable pieces.flatten = true := by
  constructor
  · intro h
    induction pieces with
    | nil => rfl
    | cons piece rest ih =>
      rw [addPieces] at h
      rw [List.flatten_cons, isEncodable_append, Bool.and_eq_true]
      unfold encode at h
      split at h
      · simp at h
      · next bytes hbytes =>
        split at hbytes
        · next hpiece => exact ⟨hpiece, ih ((addPieces_problem _ _).symm.trans h)⟩
        · simp at hbytes
  · intro h
    rw [addPieces_of_isEncodable h]

/-! ## States -/

/-- A writer that has put `blocks` into the file at `location`, or not opened it yet. -/
structure Wrote (w : Writer) (location : Location) (blocks : List Text) (tree : FileTree) :
    Prop where
  count : w.written = blocks.length
  closed : blocks = [] → w.handle = none
  opened : blocks ≠ [] → w.handle = some ⟨location, (content blocks).length, []⟩ ∧
    tree.node? location = some (.file (.bytes (content blocks)))

/-- A writer whose handle, if it has one, is at `location`. -/
def WritesTo (w : Writer) (location : Location) : Prop :=
  ∀ handle ∈ w.handle, handle.location = location

theorem wrote_new (path : Path) (overwrite : Bool) (location : Location) (tree : FileTree) :
    (new path overwrite).Wrote location [] tree :=
  ⟨rfl, fun _ => rfl, fun h => absurd rfl h⟩

variable {w : Writer} {location : Location} {blocks : List Text} {tree : FileTree} {base : Location}

theorem Wrote.writesTo (h : w.Wrote location blocks tree) : w.WritesTo location := by
  intro handle hhandle
  by_cases hblocks : blocks = []
  · rw [h.closed hblocks] at hhandle
    simp at hhandle
  · rw [(h.opened hblocks).1] at hhandle
    injection hhandle with hhandle
    rw [← hhandle]

/-- Nothing has changed in the tree but the node at `location`. -/
def ChangesOnly (location : Location) (tree tree' : FileTree) : Prop :=
  ∀ l, l ≠ location → tree'.node? l = tree.node? l

theorem ChangesOnly.trans {tree' tree'' : FileTree} (h : ChangesOnly location tree tree')
    (h' : ChangesOnly location tree' tree'') : ChangesOnly location tree tree'' :=
  fun l hl => (h' l hl).trans (h l hl)

theorem ChangesOnly.sameInner {tree' opened : FileTree} {path : Path} {overwrite : Bool}
    (h : ChangesOnly location tree tree')
    (hopen : tree.openForWriting base path overwrite = .ok (location, opened))
    (hfile : ∃ bytes, tree'.node? location = some (.file (.bytes bytes))) :
    tree.SameInner tree' := by
  intro l
  by_cases hl : l = location
  · subst hl
    exact .inr ⟨(FileTree.openForWriting_eq_ok hopen).2.1.imp id And.right, .inr hfile⟩
  · exact .inl (h l hl)

/-- The file to which a writer goes can be opened, as long as it is not open yet. -/
def CanOpen (w : Writer) (base location : Location) (blocks : List Text) (tree : FileTree) : Prop :=
  blocks = [] → ∃ opened, tree.openForWriting base w.path w.overwrite = .ok (location, opened)

/-! ## Steps -/

theorem ready_spec (hw : w.Wrote location blocks tree)
    (hopen : w.CanOpen base location blocks tree) :
    ∃ old before tree', w.ready tree base = .ok (⟨location, old.length, []⟩, before, tree') ∧
      tree'.node? location = some (.file (.bytes old)) ∧ ChangesOnly location tree tree' ∧
      isEncodable before.flatten = true ∧
      ∀ block, content (blocks ++ [block]) = old ++ bytesOf (before.flatten ++ block) := by
  by_cases hblocks : blocks = []
  · obtain ⟨opened, hopened⟩ := hopen hblocks
    obtain ⟨rfl, hbefore, -⟩ := FileTree.openForWriting_eq_ok hopened
    have hroot : location ≠ [] := by
      rintro rfl
      rw [FileTree.node?_root] at hbefore
      simp at hbefore
    refine ⟨[], [], tree.put location (.file (.bytes [])), ?_, ?_, ?_, rfl, ?_⟩
    · rw [ready, hw.closed hblocks, hopened]
      rfl
    · rw [FileTree.node?_put hroot, if_pos rfl]
    · intro l hl
      rw [FileTree.node?_put hroot, if_neg hl]
    · intro block
      subst hblocks
      rfl
  · obtain ⟨hhandle, hfile⟩ := hw.opened hblocks
    refine ⟨content blocks, [[⟨0x0A⟩]], tree, ?_, hfile, fun _ _ => rfl, rfl, ?_⟩
    · rw [ready, hhandle]
    · intro block
      exact content_concat block hblocks

theorem write_of_isEncodable (hw : w.Wrote location blocks tree)
    (hopen : w.CanOpen base location blocks tree) {a : Analysis} {separator : Text}
    (h : isEncodable (blockText separator a) = true) :
    (w.write tree base a separator).result = .ok () ∧
      (w.write tree base a separator).writer.Wrote location (blocks ++ [blockText separator a])
        (w.write tree base a separator).tree ∧
      ChangesOnly location tree (w.write tree base a separator).tree ∧
      (w.write tree base a separator).writer.path = w.path := by
  obtain ⟨old, before, tree', hready, hold, hchanges, hbefore, hcontent⟩ := ready_spec hw hopen
  have hflatten : (before ++ blockPieces separator a).flatten =
      before.flatten ++ blockText separator a := List.flatten_append
  have hencodable : isEncodable (before ++ blockPieces separator a).flatten = true := by
    rw [hflatten, isEncodable_append, hbefore, h]
    rfl
  have hend := FileTree.node?_writeAt_end hold
    (bytesOf (before ++ blockPieces separator a).flatten)
  have hlength : old.length + (bytesOf (before ++ blockPieces separator a).flatten).length =
      (content (blocks ++ [blockText separator a])).length := by
    rw [hcontent, hflatten, List.length_append]
  unfold write
  rw [hready]
  simp only [addPieces_of_isEncodable hencodable, Handle.flush, List.nil_append]
  refine ⟨trivial, ⟨?_, by simp, fun _ => ⟨?_, ?_⟩⟩, ?_, trivial⟩
  · rw [List.length_append, hw.count]
    rfl
  · rw [hlength]
  · rw [hend, hcontent, hflatten]
  · exact hchanges.trans fun l hl => FileTree.node?_writeAt_of_ne hl _ _ _

theorem write_of_problem (hw : w.Wrote location blocks tree)
    (hopen : w.CanOpen base location blocks tree) {a : Analysis} {separator : Text}
    {problem : EncodeProblem} (h : (addPieces [] (blockPieces separator a)).2 = some problem) :
    (w.write tree base a separator).result = .error (.escaped (.unencodable problem)) ∧
      (w.write tree base a separator).writer.WritesTo location ∧
      ChangesOnly location tree (w.write tree base a separator).tree ∧
      (w.write tree base a separator).writer.path = w.path := by
  obtain ⟨old, before, tree', hready, hold, hchanges, hbefore, hcontent⟩ := ready_spec hw hopen
  have hproblem : (addPieces [] (before ++ blockPieces separator a)).2 = some problem :=
    (addPieces_problem_append hbefore _).trans h
  obtain ⟨pending, hpending⟩ : ∃ pending,
      addPieces [] (before ++ blockPieces separator a) = (pending, some problem) :=
    ⟨_, Prod.ext rfl hproblem⟩
  unfold write
  rw [hready]
  simp only [hpending]
  refine ⟨trivial, ?_, hchanges, trivial⟩
  intro handle hhandle
  injection hhandle with hhandle
  rw [← hhandle]

theorem close_of_wrote (hw : w.Wrote location blocks tree) :
    (w.close tree).2.1 = tree := by
  unfold close
  by_cases hblocks : blocks = []
  · rw [hw.closed hblocks]
  · obtain ⟨hhandle, hfile⟩ := hw.opened hblocks
    rw [hhandle]
    simp only [Handle.flush, FileTree.writeAt, hfile]

theorem close_changesOnly (hw : w.WritesTo location) :
    ChangesOnly location tree (w.close tree).2.1 := by
  unfold close
  cases hhandle : w.handle with
  | none => exact fun _ _ => rfl
  | some handle =>
    obtain rfl := hw handle hhandle
    exact fun l hl => FileTree.node?_writeAt_of_ne hl _ _ _

theorem close_path : (w.close tree).1.path = w.path := by
  unfold close
  cases w.handle <;> rfl

theorem close_written (w : Writer) (tree : FileTree) : (w.close tree).1.written = w.written := by
  unfold close
  cases w.handle <;> rfl

end Writer

end Nomenclator

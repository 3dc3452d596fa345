import Nomenclator.Proofs.Output.Writer

/-!
# What is in the file while a writer is at work

A writer that is stopped after any block leaves a file of all blocks so far. Until its first block
it has no file.
-/

namespace Nomenclator

/-- The path leads to a file with just this text. -/
def FileTree.Holds (tree : FileTree) (base : Location) (path : Path) (text : Text) : Prop :=
  ∃ bytes, Utf8.encode text = .ok bytes ∧ tree.read base path = .ok bytes

namespace Writer

open FileTree Utf8

/-! ## Runs -/

/-- The writer and the files after writes, one after the other. -/
def writeAll (w : Writer) (tree : FileTree) (base : Location) :
    List (Text × Analysis) → Writer × FileTree
  | [] => (w, tree)
  | (separator, a) :: rest =>
    let step := w.write tree base a separator
    step.writer.writeAll step.tree base rest

/-- Each of the writes succeeds. -/
def WritesAll (w : Writer) (tree : FileTree) (base : Location) : List (Text × Analysis) → Prop
  | [] => True
  | (separator, a) :: rest =>
    let step := w.write tree base a separator
    step.result = .ok () ∧ step.writer.WritesAll step.tree base rest

variable {w : Writer} {tree : FileTree} {base location : Location} {blocks : List Text}
  {items : List (Text × Analysis)}

theorem WritesAll.of_append {done more : List (Text × Analysis)}
    (h : w.WritesAll tree base (done ++ more)) : w.WritesAll tree base done := by
  induction done generalizing w tree with
  | nil => trivial
  | cons item rest ih => exact ⟨h.1, ih h.2⟩

/-! ## One write -/

theorem exists_opened_of_write {a : Analysis} {separator : Text} (hclosed : w.handle = none)
    (h : (w.write tree base a separator).result = .ok ()) :
    ∃ location opened, tree.openForWriting base w.path w.overwrite = .ok (location, opened) := by
  unfold write ready at h
  rw [hclosed] at h
  cases hopen : tree.openForWriting base w.path w.overwrite with
  | error error => simp [hopen] at h
  | ok opened => exact ⟨opened.1, opened.2, rfl⟩

theorem isEncodable_of_write (hw : w.Wrote location blocks tree)
    (hopen : w.CanOpen base location blocks tree) {a : Analysis} {separator : Text}
    (h : (w.write tree base a separator).result = .ok ()) :
    isEncodable (blockText separator a) = true := by
  rw [blockText, ← addPieces_problem_eq_none_iff]
  cases hproblem : (addPieces [] (blockPieces separator a)).2 with
  | none => rfl
  | some problem =>
    rw [(write_of_problem hw hopen hproblem).1] at h
    simp at h

/-! ## Whole runs -/

theorem writeAll_spec (hw : w.Wrote location blocks tree)
    (hopen : w.CanOpen base location blocks tree) (h : w.WritesAll tree base items) :
    (w.writeAll tree base items).1.Wrote location
        (blocks ++ items.map fun item => blockText item.1 item.2) (w.writeAll tree base items).2 ∧
      ChangesOnly location tree (w.writeAll tree base items).2 ∧
      ∀ item ∈ items, isEncodable (blockText item.1 item.2) = true := by
  induction items generalizing w tree blocks with
  | nil => exact ⟨by simpa [writeAll] using hw, fun _ _ => rfl, by simp⟩
  | cons item rest ih =>
    obtain ⟨separator, a⟩ := item
    have hencodable := isEncodable_of_write hw hopen h.1
    obtain ⟨-, hwrote, hchanges, -⟩ := write_of_isEncodable hw hopen hencodable
    obtain ⟨hrest, hmore, hall⟩ := ih hwrote (by simp [CanOpen]) h.2
    refine ⟨?_, hchanges.trans hmore, List.forall_mem_cons.2 ⟨hencodable, hall⟩⟩
    rw [List.map_cons, List.append_cons]
    exact hrest

theorem writesAll_of_isEncodable (hw : w.Wrote location blocks tree)
    (hopen : w.CanOpen base location blocks tree)
    (h : ∀ item ∈ items, isEncodable (blockText item.1 item.2) = true) :
    w.WritesAll tree base items := by
  induction items generalizing w tree blocks with
  | nil => trivial
  | cons item rest ih =>
    rw [List.forall_mem_cons] at h
    obtain ⟨hresult, hwrote, -, -⟩ := write_of_isEncodable hw hopen h.1
    -- the file is open after the first write, so nothing is left to open
    exact ⟨hresult, ih hwrote (by simp [CanOpen]) h.2⟩

theorem encode_join {blocks : List Text} (h : ∀ block ∈ blocks, isEncodable block = true) :
    encode (Text.join [⟨0x0A⟩] blocks) = .ok (content blocks) := by
  refine encode_of_isEncodable (List.all_eq_true.2 ?_)
  exact Text.forall_mem_join (by decide) fun block hblock => List.all_eq_true.1 (h block hblock)

variable {path : Path} {overwrite : Bool}

theorem exists_wrote (h : (new path overwrite).WritesAll tree base items) (hsome : items ≠ []) :
    ∃ location opened, tree.openForWriting base path overwrite = .ok (location, opened) ∧
      ((new path overwrite).writeAll tree base items).1.Wrote location
        (items.map fun item => blockText item.1 item.2)
        ((new path overwrite).writeAll tree base items).2 ∧
      ChangesOnly location tree ((new path overwrite).writeAll tree base items).2 ∧
      ∀ item ∈ items, isEncodable (blockText item.1 item.2) = true := by
  obtain ⟨location, opened, hopen⟩ : ∃ location opened,
      tree.openForWriting base path overwrite = .ok (location, opened) := by
    obtain ⟨item, rest, rfl⟩ := List.exists_cons_of_ne_nil hsome
    exact exists_opened_of_write rfl h.1
  exact ⟨location, opened, hopen,
    writeAll_spec (wrote_new path overwrite location tree) (fun _ => ⟨opened, hopen⟩) h⟩

theorem written_writeAll (h : (new path overwrite).WritesAll tree base items) :
    ((new path overwrite).writeAll tree base items).1.written = items.length := by
  by_cases hsome : items = []
  · subst hsome
    rfl
  · obtain ⟨location, opened, -, hwrote, -⟩ := exists_wrote h hsome
    rw [hwrote.count, List.length_map]

theorem holds_writeAll (h : (new path overwrite).WritesAll tree base items) (hsome : items ≠ []) :
    ((new path overwrite).writeAll tree base items).2.Holds base path
      (Text.join [⟨0x0A⟩] (items.map fun item => blockText item.1 item.2)) := by
  obtain ⟨location, opened, hopen, hwrote, hchanges, hencodable⟩ := exists_wrote h hsome
  have hfile := (hwrote.opened (by simpa using hsome)).2
  refine ⟨_, encode_join (List.forall_mem_map.2 hencodable), ?_⟩
  exact read_opened (hchanges.sameInner hopen ⟨_, hfile⟩) hopen hfile

/-! ## Whole lists -/

theorem close_writeAll (h : (new path overwrite).WritesAll tree base items) :
    (((new path overwrite).writeAll tree base items).1.close
      ((new path overwrite).writeAll tree base items).2).2.1 =
        ((new path overwrite).writeAll tree base items).2 := by
  by_cases hsome : items = []
  · subst hsome
    rfl
  · obtain ⟨location, opened, -, hwrote, -⟩ := exists_wrote h hsome
    exact close_of_wrote hwrote

theorem writeEach_eq_writeAll {analyses : List Analysis}
    (h : w.WritesAll tree base (analyses.map (Prod.mk []))) :
    w.writeEach tree base analyses =
      ⟨.ok (), (w.writeAll tree base (analyses.map (Prod.mk []))).1,
        (w.writeAll tree base (analyses.map (Prod.mk []))).2⟩ := by
  induction analyses generalizing w tree with
  | nil => rfl
  | cons a rest ih =>
    have hresult : (w.write tree base a []).result = .ok () := h.1
    unfold writeEach
    simp only [hresult]
    exact ih h.2

theorem writeAnalyses_eq {analyses : List Analysis}
    (h : (new path overwrite).WritesAll tree base (analyses.map (Prod.mk []))) :
    ∃ log, writeAnalyses path overwrite tree base analyses =
      (.ok analyses.length,
        ((new path overwrite).writeAll tree base (analyses.map (Prod.mk []))).2, log) := by
  unfold writeAnalyses
  rw [writeEach_eq_writeAll h]
  dsimp only
  rw [close_writeAll h, close_written, written_writeAll h, List.length_map]
  exact ⟨_, rfl⟩

/-- After each write of a run the file is the blocks written so far with a line feed between each
two; without a write there is no change. Analyses written at once leave the file that they leave one
by one. -/
theorem writeAll_inProgress (path : Path) (overwrite : Bool) (tree : FileTree) (base : Location)
    (items : List (Text × Analysis)) (h : (new path overwrite).WritesAll tree base items) :
    (∀ done more, items = done ++ more →
      ((new path overwrite).writeAll tree base done).1.written = done.length ∧
      if done = [] then ((new path overwrite).writeAll tree base done).2 = tree
      else ((new path overwrite).writeAll tree base done).2.Holds base path
        (Text.join [⟨0x0A⟩] (done.map fun item => blockText item.1 item.2))) ∧
    ((new path overwrite).close tree).2.1 = tree ∧
    ∀ analyses, items = analyses.map (Prod.mk []) →
      ∃ log, writeAnalyses path overwrite tree base analyses =
        (.ok analyses.length, ((new path overwrite).writeAll tree base items).2, log) := by
  refine ⟨fun done more hsplit => ?_, rfl, fun analyses hitems => ?_⟩
  · subst hsplit
    by_cases hdone : done = []
    · subst hdone
      exact ⟨rfl, rfl⟩
    · rw [if_neg hdone]
      exact ⟨written_writeAll h.of_append, holds_writeAll h.of_append hdone⟩
  · subst hitems
    exact writeAnalyses_eq h

def twoItems : List (Text × Analysis) :=
  [("//----- (1F)", ⟨0, "x", ⟨"d", "f", [], []⟩, ⟨"x", 0, []⟩⟩),
    ([], ⟨1, "y", ⟨"d", "g", [], []⟩, ⟨"y", 0, []⟩⟩)]

def twoTarget : Path := ⟨.relative, ["a.out.c"]⟩

def twoOlder : FileTree := FileTree.empty.put ["a.out.c"] (.file (.bytes [0x78]))

/-- A run that makes its file, and one that replaces it. -/
theorem writeAll_inProgress_two :
    (new twoTarget false).WritesAll .empty [] twoItems ∧
      (new twoTarget true).WritesAll twoOlder [] ((twoItems.map Prod.snd).map (Prod.mk [])) ∧
      ((new twoTarget false).writeAll .empty [] (twoItems.take 1)).1.written = 1 ∧
      ((new twoTarget false).writeAll .empty [] twoItems).2.Holds [] twoTarget
        "//----- (1F)\n/*\n * f()\n *\n * d\n */\n\nx\n/*\n * g()\n *\n * d\n */\n\ny" ∧
      (writeAnalyses twoTarget true twoOlder [] (twoItems.map Prod.snd)).1 = .ok 2 := by
  have htarget : ∀ tree : FileTree, tree.IsStraight [] twoTarget ["a.out.c"] :=
    isStraight_here (by decide)
  have hnew : (new twoTarget false).WritesAll .empty [] twoItems :=
    writesAll_of_isEncodable (wrote_new twoTarget false ["a.out.c"] .empty)
      (fun _ => ⟨_, (htarget _).open_free rfl false⟩) (by decide +kernel)
  have hover : (new twoTarget true).WritesAll twoOlder []
      ((twoItems.map Prod.snd).map (Prod.mk [])) :=
    writesAll_of_isEncodable (wrote_new twoTarget true ["a.out.c"] twoOlder)
      (fun _ => ⟨_, (htarget _).open_over (.inr ⟨_, rfl⟩)⟩) (by decide +kernel)
  have htext : Text.join [⟨0x0A⟩] (twoItems.map fun item => blockText item.1 item.2) =
      "//----- (1F)\n/*\n * f()\n *\n * d\n */\n\nx\n/*\n * g()\n *\n * d\n */\n\ny" := by
    decide +kernel
  obtain ⟨hsoFar, -, -⟩ := writeAll_inProgress twoTarget false .empty [] twoItems hnew
  obtain ⟨-, -, hatOnce⟩ := writeAll_inProgress twoTarget true twoOlder [] _ hover
  obtain ⟨log, hlog⟩ := hatOnce _ rfl
  have hholds := (hsoFar twoItems [] rfl).2
  rw [if_neg (by simp [twoItems]), htext] at hholds
  exact ⟨hnew, hover, (hsoFar (twoItems.take 1) (twoItems.drop 1) rfl).1, hholds, by rw [hlog]; rfl⟩

end Writer

end Nomenclator

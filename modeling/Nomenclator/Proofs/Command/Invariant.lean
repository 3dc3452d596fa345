import Nomenclator.Command.Program
import Nomenclator.Proofs.Command.ExitCodes
import Nomenclator.Proofs.Output.Invariant

/-!
# What runs keep

Nothing but the writers of a run touches the tree, and each of them writes to the output of a
listing that was found. What these writers keep holds of the tree at whatever point the run ends.
-/

namespace Nomenclator.Command

namespace Job

/-- The writer for a listing, if there is one, keeps the property. -/
def Keeps (job : Job) (holds : FileTree → Prop) (path : Path) : Prop :=
  job.task.write = true → ∀ output, outputPath? path = some output →
    ∃ own, Writer.Keeps holds own job.base output job.task.overwrite

/-- The property holds of the tree, and the writer that is at work keeps it. -/
structure Holding (job : Job) (holds : FileTree → Prop) (writer : Option Writer) (tree : FileTree) :
    Prop where
  tree : holds tree
  writer : ∀ w ∈ writer, ∃ own, Writer.Keeps holds own job.base w.path w.overwrite ∧ w.Owns own

variable {job : Job} {holds : FileTree → Prop} {writer : Option Writer} {run : Run}

/-! ## Functions -/

theorem Holding.save (h : job.Holding holds writer run.tree) (separator : Text) (a : Analysis) :
    job.Holding holds (job.save writer run separator a).writer
      (job.save writer run separator a).run.tree := by
  unfold Job.save
  split
  · exact ⟨h.tree, by simp⟩
  · next w =>
    obtain ⟨own, hkeeps, howns⟩ := h.writer w rfl
    obtain ⟨htree, howns'⟩ := hkeeps.write h.tree howns a separator
    refine ⟨htree, fun w' hw' => ?_⟩
    injection hw' with hw'
    subst hw'
    refine ⟨own, ?_, howns'⟩
    rwa [Writer.write_path, Writer.write_overwrite]

theorem Holding.analyzeBlock (h : job.Holding holds writer run.tree) (total index : Nat)
    (block : Listing.Block) :
    job.Holding holds (job.analyzeBlock total index writer run block).writer
      (job.analyzeBlock total index writer run block).run.tree := by
  unfold Job.analyzeBlock
  dsimp only
  split
  · exact h
  · next a _ =>
    dsimp only [Run.say]
    cases (job.report (index + 1) total a).stop with
    | some error => exact h
    | none =>
      refine Holding.save ?_ block.separator a
      exact h

theorem Holding.analyzeBlocks (h : job.Holding holds writer run.tree) (total index : Nat)
    (blocks : List Listing.Block) :
    job.Holding holds (job.analyzeBlocks total index writer run blocks).writer
      (job.analyzeBlocks total index writer run blocks).run.tree := by
  induction blocks generalizing writer run index with
  | nil => exact h
  | cons block rest ih =>
    have hstep := h.analyzeBlock total index block
    unfold Job.analyzeBlocks
    dsimp only
    split
    · exact hstep
    · exact ih hstep (index + 1)

theorem Holding.finish {progress : Progress}
    (h : job.Holding holds progress.writer progress.run.tree) :
    holds (job.finish progress).2.tree := by
  unfold Job.finish
  split
  · exact h.tree
  · next w hw =>
    obtain ⟨own, hkeeps, howns⟩ := h.writer w hw
    have hclosed := hkeeps.close h.tree howns
    dsimp only
    split <;> exact hclosed

/-! ## Listings -/

theorem holding_start {path output : Path} (hpath : job.Keeps holds path)
    (houtput : outputPath? path = some output) (htree : holds run.tree) :
    job.Holding holds
      (if job.task.write then some (Writer.new output job.task.overwrite) else none)
      run.tree where
  tree := htree
  writer := by
    intro w hw
    split at hw
    · next hwrite =>
      injection hw with hw
      subst hw
      obtain ⟨own, hkeeps⟩ := hpath hwrite output houtput
      exact ⟨own, hkeeps, Writer.owns_new _ _ _⟩
    · simp at hw

theorem holds_analyzeText {path : Path} (hpath : job.Keeps holds path) (htree : holds run.tree) :
    holds (job.analyzeText run path).2.tree := by
  unfold analyzeText
  split
  · exact htree
  · next text _ =>
    dsimp only
    split
    · exact htree
    · exact htree
    · next output houtput _ =>
      have hstart : job.Holding holds _ (run.note (job.blocksLog text)).tree :=
        holding_start hpath houtput htree
      exact (hstart.analyzeBlocks _ _ _).finish

theorem holds_analyzeListing {path : Path} (hpath : job.Keeps holds path) (htree : holds run.tree) :
    holds (job.analyzeListing run path).2.tree := by
  unfold analyzeListing
  dsimp only [Run.say]
  cases (job.startLine path).stop with
  | some error => exact htree
  | none =>
    refine holds_analyzeText hpath ?_
    exact htree

theorem holds_analyzeListings {paths : List Path} (hpaths : ∀ path ∈ paths, job.Keeps holds path)
    (htree : holds run.tree) : holds (job.analyzeListings run paths).2.tree := by
  induction paths generalizing run with
  | nil => exact htree
  | cons path rest ih =>
    obtain ⟨hpath, hrest⟩ := List.forall_mem_cons.1 hpaths
    have hstep := holds_analyzeListing hpath htree
    unfold analyzeListings
    generalize job.analyzeListing run path = step at hstep
    obtain ⟨result, after⟩ := step
    cases result with
    | error halt => exact hstep
    | ok _ => exact ih hrest hstep

/-! ## Runs of a job -/

theorem perform_tree (job : Job) (run : Run) :
    (job.perform run).2.tree = (job.work run).2.tree :=
  (job.conclude_run (job.work run)).2

theorem holds_perform
    (hpaths : ∀ paths, (Listing.discover run.tree job.base Listing.defaultExtensions
      job.task.paths).1 = .ok paths → ∀ path ∈ paths, job.Keeps holds path)
    (htree : holds run.tree) : holds (job.perform run).2.tree := by
  have hstart : (job.discovered run).2.tree = run.tree := rfl
  rw [perform_tree]
  unfold work
  split
  · next hdiscovered =>
    obtain ⟨-, rfl⟩ := Prod.ext_iff.1 hdiscovered
    exact hstart ▸ htree
  · next paths _ hdiscovered =>
    obtain ⟨hfound, rfl⟩ := Prod.ext_iff.1 hdiscovered
    exact holds_analyzeListings (hpaths paths hfound) (hstart ▸ htree)

end Job

/-! ## Runs of the program -/

theorem sayThen_tree {goOn : Run → Ending × Run} (hgoOn : ∀ run, (goOn run).2.tree = run.tree)
    (run : Run) (showing : Console.Showing) : (run.sayThen showing goOn).2.tree = run.tree := by
  unfold Run.sayThen
  cases showing.stop with
  | none => exact hgoOn _
  | some error => rfl

theorem settle_tree (verbose : Bool) (command : Command) (step : Ending × Run) :
    (settle verbose command step).tree = step.2.tree := by
  obtain ⟨ending, run⟩ := step
  cases ending <;> rfl

theorem conclude_tree (surroundings : Surroundings) (verbose : Bool) (command : Command)
    (step : Ending × Run) :
    (conclude surroundings verbose command step).tree = step.2.tree := by
  unfold conclude
  split
  · next escape run =>
    rw [settle_tree]
    split
    · exact sayThen_tree (fun _ => rfl) _ _
    · rfl
  · exact settle_tree _ _ _

theorem analyzeWith_tree (surroundings : Surroundings) (task : Task) :
    (analyzeWith surroundings task).2.tree = surroundings.tree ∨
      ∃ settings run, run.tree = surroundings.tree ∧
        (analyzeWith surroundings task).2.tree =
          (Job.perform ⟨task, settings, surroundings.base, surroundings.width⟩ run).2.tree := by
  unfold analyzeWith withSettings
  dsimp only
  split
  · exact .inr ⟨_, _, rfl, rfl⟩
  · split <;> exact .inl rfl

theorem exists_run_perform {surroundings : Surroundings} {given : List Text} {verbose : Bool}
    {task : Task} {settings : Settings}
    (hgiven : readInvocation surroundings.tree surroundings.base given =
      .ok ⟨verbose, .analyze task⟩)
    (hsettings : (Settings.resolve task.options surroundings.environment surroundings.tree
      surroundings.base surroundings.root surroundings.home).result = .ok settings) :
    ∃ start, start.tree = surroundings.tree ∧ start.replies = surroundings.replies ∧
      (run surroundings given).tree =
        (Job.perform ⟨task, settings, surroundings.base, surroundings.width⟩ start).2.tree := by
  have htree : (run surroundings given).tree = (analyzeWith surroundings task).2.tree := by
    unfold run
    rw [hgiven]
    exact conclude_tree _ _ _ _
  rw [htree]
  unfold analyzeWith withSettings
  dsimp only
  rw [hsettings]
  exact ⟨_, rfl, rfl, rfl⟩

/-- A property of the tree outlasts a run of the analyze command if the writers for the outputs of
the listings that it finds keep it. -/
theorem holds_run {surroundings : Surroundings} {given : List Text} {verbose : Bool} {task : Task}
    {holds : FileTree → Prop}
    (hgiven : readInvocation surroundings.tree surroundings.base given =
      .ok ⟨verbose, .analyze task⟩)
    (hpaths : task.write = true → ∀ inputs, (Listing.discover surroundings.tree surroundings.base
        Listing.defaultExtensions task.paths).1 = .ok inputs →
      ∀ input ∈ inputs, ∀ output, outputPath? input = some output →
        ∃ own, Writer.Keeps holds own surroundings.base output task.overwrite)
    (htree : holds surroundings.tree) : holds (run surroundings given).tree := by
  unfold run
  rw [hgiven]
  dsimp only
  rw [conclude_tree]
  rcases analyzeWith_tree surroundings task with hsame | ⟨settings, start, hstart, hperform⟩
  · rwa [hsame]
  · rw [hperform]
    refine Job.holds_perform (fun inputs hinputs input hinput hwrite => ?_) (hstart ▸ htree)
    rw [hstart] at hinputs
    exact hpaths hwrite inputs hinputs input hinput

end Nomenclator.Command

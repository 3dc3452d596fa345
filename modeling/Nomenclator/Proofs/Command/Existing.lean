import Nomenclator.Proofs.Command.Answered
import Nomenclator.Proofs.Command.Invariant
import Nomenclator.Proofs.Command.Operands
import Nomenclator.Proofs.Listing.Discovery
import Nomenclator.Proofs.Output.Exclusive

/-!
# What was there before

A run that may not overwrite changes nothing that it found, wherever it ends. Its writers are the
only ones that touch the tree, and each of them opens its file at a name that was free when the run
began.
-/

namespace Nomenclator.Command

open FileTree

namespace Job

/-! ## Listings -/

/-- A listing may be saved only without overwriting, and where `may` allows it. -/
def Permits (job : Job) (may : Location → Prop) (before : FileTree) (path : Path) : Prop :=
  job.task.write = true → job.task.overwrite = false ∧
    ∀ output, outputPath? path = some output →
      ∀ l, before.IsFreeAt job.base output l → may l

variable {job : Job} {may : Location → Prop} {before : FileTree} {run : Run}

theorem Permits.keeps {path : Path} (h : job.Permits may before path) :
    job.Keeps (OnlyCreates may before) path := by
  intro hwrite output houtput
  obtain ⟨hexclusive, hmay⟩ := h hwrite
  rw [hexclusive]
  exact ⟨_, Writer.keeps_onlyCreates (hmay output houtput)⟩

theorem onlyCreates_analyzeListing (htree : OnlyCreates may before run.tree) {path : Path}
    (hpath : job.Permits may before path) :
    OnlyCreates may before (job.analyzeListing run path).2.tree :=
  holds_analyzeListing hpath.keeps htree

/-! ## Listings whose output is in the way -/

variable {w : Writer} {path : Path}

theorem opens_of_save {separator : Text} {a : Analysis} (hclosed : w.handle = none)
    (h : (job.save (some w) run separator a).result = .ok ()) :
    ∃ location opened,
      run.tree.openForWriting job.base w.path w.overwrite = .ok (location, opened) := by
  cases hopen : run.tree.openForWriting job.base w.path w.overwrite with
  | ok opened => exact ⟨opened.1, opened.2, rfl⟩
  | error error =>
    have hwrite : (w.write run.tree job.base a separator).result =
        .error (.failed (Writer.openFailure w.path error)) := by
      rw [Writer.write, Writer.ready, hclosed, hopen]
    simp [save, hwrite] at h

theorem opens_of_analyzeBlock {total index : Nat} {block : Listing.Block}
    (hclosed : w.handle = none)
    (h : (job.analyzeBlock total index (some w) run block).result = .ok ()) :
    ∃ location opened,
      run.tree.openForWriting job.base w.path w.overwrite = .ok (location, opened) := by
  unfold analyzeBlock at h
  dsimp only at h
  split at h
  · simp at h
  · next a _ =>
    dsimp only [Run.say] at h
    cases hstop : (job.report (index + 1) total a).stop with
    | some error => simp [hstop] at h
    | none =>
      simp only [hstop] at h
      exact opens_of_save hclosed h

theorem result_of_finish {progress : Progress} (h : (job.finish progress).1 = .ok ()) :
    progress.result = .ok () := by
  unfold finish at h
  split at h
  · exact h
  · cases hresult : progress.result with
    | ok _ => rfl
    | error halt => simp [hresult] at h

theorem opens_of_analyzeListing (hwrite : job.task.write = true)
    (h : (job.analyzeListing run path).1 = .ok ()) :
    ∃ output location opened, outputPath? path = some output ∧
      run.tree.openForWriting job.base output job.task.overwrite = .ok (location, opened) := by
  unfold analyzeListing at h
  dsimp only [Run.say] at h
  cases hstart : (job.startLine path).stop with
  | some error => simp [hstart] at h
  | none =>
    simp only [hstart] at h
    unfold analyzeText at h
    split at h
    · simp at h
    · next text _ =>
      dsimp only at h
      split at h
      · simp at h
      · simp at h
      · next output houtput hfound =>
        rw [if_pos hwrite] at h
        generalize job.blocks text = blocks at h hfound
        cases blocks with
        | nil => exact (hfound rfl).elim
        | cons block rest =>
          -- the first block opens the file, or the listing is not completed
          have hresult := result_of_finish h
          unfold analyzeBlocks at hresult
          dsimp only at hresult
          split at hresult
          · next halt hblock =>
            rw [hblock] at hresult
            simp at hresult
          · next hblock =>
            obtain ⟨location, opened, hopen⟩ := opens_of_analyzeBlock rfl hblock
            exact ⟨output, location, opened, houtput, hopen⟩

theorem isFreeAt_of_analyzeListings (hwrite : job.task.write = true)
    (hexclusive : job.task.overwrite = false)
    (htree : OnlyCreates (fun _ => True) before run.tree) {paths : List Path}
    (h : (job.analyzeListings run paths).1 = .ok ()) :
    ∀ path ∈ paths, ∃ output l, outputPath? path = some output ∧
      before.IsFreeAt job.base output l := by
  induction paths generalizing run with
  | nil => simp
  | cons path rest ih =>
    have hstep : OnlyCreates (fun _ => True) before (job.analyzeListing run path).2.tree :=
      onlyCreates_analyzeListing htree fun _ => ⟨hexclusive, fun _ _ _ _ => trivial⟩
    unfold analyzeListings at h
    split at h
    · simp at h
    · next midway hfirst =>
      obtain ⟨output, location, opened, houtput, hopen⟩ :=
        opens_of_analyzeListing hwrite (congrArg Prod.fst hfirst)
      rw [hexclusive] at hopen
      rw [hfirst] at hstep
      refine List.forall_mem_cons.2 ⟨⟨output, location, houtput, ?_⟩, ih hstep h⟩
      exact htree.isFreeAt (openForWriting_exclusive hopen).2

/-! ## Runs of a job -/

theorem work_ok_of_perform (h : (job.perform run).1 = .exit exitDone) :
    ∃ after, job.work run = (.ok (), after) := by
  unfold perform at h
  cases hwork : job.work run with
  | mk result after =>
    cases result with
    | ok _ => exact ⟨after, rfl⟩
    | error halt =>
      rw [hwork] at h
      exact absurd h (job.conclude_error_ne halt after)

theorem discover_ok_of_work {after : Run} (h : job.work run = (.ok (), after)) :
    ∃ paths, (Listing.discover run.tree job.base Listing.defaultExtensions job.task.paths).1 =
        .ok paths ∧
      job.analyzeListings (job.discovered run).2 paths = (.ok (), after) := by
  unfold work at h
  split at h
  · simp at h
  · next paths start hdiscovered =>
    obtain ⟨hpaths, hstart⟩ := Prod.ext_iff.1 hdiscovered
    exact ⟨paths, hpaths, by rw [hstart]; exact h⟩

end Job

/-! ## Runs of the program -/

theorem analyzeWith_done {surroundings : Surroundings} {task : Task}
    (h : (analyzeWith surroundings task).1 = .exit exitDone) :
    ∃ settings run, run.tree = surroundings.tree ∧
      (Job.perform ⟨task, settings, surroundings.base, surroundings.width⟩ run).1 =
        .exit exitDone := by
  unfold analyzeWith withSettings at h
  dsimp only at h
  split at h
  · exact ⟨_, _, rfl, h⟩
  · split at h <;> simp at h

theorem settle_done {verbose : Bool} {command : Command} {step : Ending × Run}
    (h : (settle verbose command step).ending = .ok exitDone) : step.1 = .exit exitDone := by
  obtain ⟨ending, run⟩ := step
  cases ending with
  | exit code =>
    injection h with h
    exact h ▸ rfl
  | refused problem => simp [settle, exitMisused, exitDone] at h
  | brokenOff => simp [settle, exitUnexpected, exitDone] at h
  | escaped escape => simp [settle] at h

theorem conclude_done {surroundings : Surroundings} {verbose : Bool} {command : Command}
    {step : Ending × Run}
    (h : (conclude surroundings verbose command step).ending = .ok exitDone) :
    step.1 = .exit exitDone := by
  unfold conclude at h
  split at h
  · -- what escaped is reported at best, and then the exit code is another one
    have hended := settle_done h
    split at hended
    · unfold Run.sayThen at hended
      split at hended <;> simp [exitUnexpected, exitDone] at hended
    · simp at hended
  · exact settle_done h

/-- The output of a listing that the task finds. -/
def IsOutput (surroundings : Surroundings) (task : Task) (output : Path) : Prop :=
  ∃ inputs, (Listing.discover surroundings.tree surroundings.base Listing.defaultExtensions
    task.paths).1 = .ok inputs ∧ ∃ input ∈ inputs, outputPath? input = some output

variable {surroundings : Surroundings} {given : List Text} {verbose : Bool} {task : Task}

theorem onlyCreates_run {may : Location → Prop}
    (hgiven : readInvocation surroundings.tree surroundings.base given =
      .ok ⟨verbose, .analyze task⟩)
    (hmay : task.write = true → task.overwrite = false ∧ ∀ output,
      IsOutput surroundings task output →
        ∀ l, surroundings.tree.IsFreeAt surroundings.base output l → may l) :
    OnlyCreates may surroundings.tree (run surroundings given).tree := by
  refine holds_run hgiven (fun hwrite inputs hinputs input hinput output houtput => ?_)
    (OnlyCreates.refl _ _)
  obtain ⟨hexclusive, hall⟩ := hmay hwrite
  rw [hexclusive]
  exact ⟨_, Writer.keeps_onlyCreates (hall output ⟨inputs, hinputs, input, hinput, houtput⟩)⟩

theorem run_done_isFreeAt
    (hgiven : readInvocation surroundings.tree surroundings.base given =
      .ok ⟨verbose, .analyze task⟩)
    (hwrite : task.write = true) (hexclusive : task.overwrite = false)
    (hdone : (run surroundings given).ending = .ok exitDone) {output : Path}
    (houtput : IsOutput surroundings task output) :
    ∃ l, surroundings.tree.IsFreeAt surroundings.base output l := by
  unfold run at hdone
  rw [hgiven] at hdone
  obtain ⟨settings, start, hstart, hperform⟩ := analyzeWith_done (conclude_done hdone)
  obtain ⟨after, hwork⟩ := Job.work_ok_of_perform hperform
  obtain ⟨paths, hpaths, hlistings⟩ := Job.discover_ok_of_work hwork
  obtain ⟨inputs, hinputs, input, hinput, houtput⟩ := houtput
  rw [hstart] at hpaths
  obtain rfl : paths = inputs := Except.ok.inj (hpaths.symm.trans hinputs)
  have hunchanged : OnlyCreates (fun _ => True) surroundings.tree
      (Job.discovered ⟨task, settings, surroundings.base, surroundings.width⟩ start).2.tree := by
    rw [← hstart]
    exact OnlyCreates.refl _ _
  obtain ⟨output', l, houtput', hfree⟩ := Job.isFreeAt_of_analyzeListings hwrite hexclusive
    hunchanged (congrArg Prod.fst hlistings) input hinput
  obtain rfl := Option.some.inj (houtput.symm.trans houtput')
  exact ⟨l, hfree⟩

/-- A run of the analyze command that may not overwrite keeps all that was there, makes files only
for the outputs of the listings that it found, and does not end well if one of these outputs was
there; if it may not write either, it changes nothing. Writers that do not overwrite keep all that
was there, whatever is done with them, and make files only where they were told to write. A write
that would have to open its file fails where something is. -/
theorem run_keepsExisting (surroundings : Surroundings) (given : List Text) (verbose : Bool)
    (task : Task)
    (hgiven : readInvocation surroundings.tree surroundings.base given =
      .ok ⟨verbose, .analyze task⟩) :
    (task.overwrite = false →
      KeepsExisting (IsOutput surroundings task) surroundings.base surroundings.tree
        (run surroundings given).tree) ∧
    (task.overwrite = false → task.write = true →
      (run surroundings given).ending = .ok exitDone →
        ∀ output, IsOutput surroundings task output → ∀ l node,
          surroundings.tree.find surroundings.base output false ≠ .ok (.node l node)) ∧
    (task.write = false →
      ∀ l, (run surroundings given).tree.node? l = surroundings.tree.node? l) ∧
    (∀ before base list,
      ((Workshop.empty before).acts false base list).KeepsExisting base before) ∧
    ∀ (w : Writer) (tree : FileTree) (base : Location) (l : Location) (node : Node)
      (a : Analysis) (separator : Text),
      w.overwrite = false → w.handle = none →
        tree.find base w.path false = .ok (.node l node) →
          w.write tree base a separator = w.refused tree := by
  refine ⟨?_, ?_, ?_, ?_, ?_⟩
  · intro hexclusive
    exact (onlyCreates_run hgiven fun _ => ⟨hexclusive, fun output houtput l hl =>
      ⟨output, houtput, hl⟩⟩).keepsExisting
  · intro hexclusive hwrite hdone output houtput l node hfind
    obtain ⟨l', hfree⟩ := run_done_isFreeAt hgiven hwrite hexclusive hdone houtput
    rw [IsFreeAt, hfind] at hfree
    simp at hfree
  · intro hwrite l
    -- a run that may not write has no names at which it may make files
    have honly : OnlyCreates (fun _ => False) surroundings.tree (run surroundings given).tree :=
      onlyCreates_run hgiven fun h => by simp [hwrite] at h
    rcases honly l with hsame | ⟨-, hnever, -⟩
    · exact hsame
    · exact hnever.elim
  · intro before base list
    exact ((Workshop.safe_empty base before).acts list).keepsExisting
  · intro w tree base l node a separator hexclusive hclosed hfind
    exact Writer.write_of_present hexclusive hclosed hfind a separator

/-- A directory with a listing and, at the name of its output, a link that leads nowhere. The reply
takes the run as far as to the link. -/
def linkedSurroundings : Surroundings where
  tree := ⟨[(["a.c"], .file (.bytes [0x78])), (["a.out.c"], .link "gone")]⟩
  base := []
  root := ⟨.absolute, []⟩
  home := ⟨.absolute, []⟩
  environment := []
  width := 80
  replies := [Job.plainReply]

def linkedTask : Task := ⟨⟨none, none, none⟩, [here "a.c"], true, true, false, false⟩

theorem run_keepsExisting_link :
    readInvocation linkedSurroundings.tree linkedSurroundings.base ["analyze", "a.c"] =
        .ok ⟨false, .analyze linkedTask⟩ ∧
      KeepsExisting (IsOutput linkedSurroundings linkedTask) [] linkedSurroundings.tree
        (run linkedSurroundings ["analyze", "a.c"]).tree ∧
      (run linkedSurroundings ["analyze", "a.c"]).ending ≠ .ok exitDone ∧
      (Writer.new (here "a.out.c") false).write linkedSurroundings.tree []
          (Job.plainAnalysis "x") [] =
        (Writer.new (here "a.out.c") false).refused linkedSurroundings.tree := by
  have hlisting : linkedSurroundings.tree.lookup [] (here "a.c") =
      .ok (["a.c"], .file (.bytes [0x78])) :=
    (isStraight_here (by decide) _).lookup rfl (by simp)
  have hsomewhere : linkedSurroundings.tree.leadsSomewhere [] "a.c" = true :=
    leadsSomewhere_of_file hlisting rfl (by decide) (by decide) (by decide)
  have hgiven : readInvocation linkedSurroundings.tree linkedSurroundings.base
      ["analyze", "a.c"] = .ok ⟨false, .analyze linkedTask⟩ :=
    readInvocation_operands (by simp) (by decide) (List.forall_mem_singleton.2 hsomewhere)
  have hinputs : (Listing.discover linkedSurroundings.tree linkedSurroundings.base
      Listing.defaultExtensions linkedTask.paths).1 = .ok [here "a.c"] :=
    Listing.discover_of_files (List.forall_mem_singleton.2 ⟨_, _, hlisting⟩)
      (List.nodup_singleton _)
  have houtput : IsOutput linkedSurroundings linkedTask (here "a.out.c") :=
    ⟨_, hinputs, here "a.c", List.mem_cons_self, by decide⟩
  have hlink : linkedSurroundings.tree.find [] (here "a.out.c") false =
      .ok (.node ["a.out.c"] (.link "gone")) :=
    (isStraight_here (by decide) _).find_node rfl (by simp)
  obtain ⟨hkeeps, hdone, -, -, hrefused⟩ := run_keepsExisting _ _ _ _ hgiven
  exact ⟨hgiven, hkeeps rfl, fun hending => hdone rfl rfl hending _ houtput _ _ hlink,
    hrefused _ _ _ _ _ _ _ rfl rfl hlink⟩

end Nomenclator.Command

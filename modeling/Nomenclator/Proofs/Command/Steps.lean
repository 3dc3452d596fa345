import Nomenclator.Proofs.Command.Course

/-!
# Steps with a writer

What trying a function and taking a listing do to a run. The writer has put the blocks of the
functions that were completed into the file, and nothing else has changed.
-/

namespace Nomenclator.Command.Job

/-! ## Functions -/

variable {job : Job} {w : Writer} {location : Location} {texts : List Text} {run : Run}
  {output : Path}

theorem attempt_calls (job : Job) (index : Nat) (block : Listing.Block) (reply : Service.Reply) :
    (job.attempt index block reply).calls = job.callsFor block := by
  have hquery : ((Service.backend job.settings).ask (Query.ofSnippet job.settings block.body)
      reply).calls = job.callsFor block := by
    unfold callsFor
    show (Service.generate _ _ _).calls = _
    unfold Service.generate
    cases Service.url job.settings Service.generateEndpoint with
    | error halt => rfl
    | ok url =>
      dsimp only
      split <;> rfl
  have hsuggestion : (Attempt.suggestion (Service.backend job.settings) job.settings block.body
      reply).calls = job.callsFor block := by
    unfold Attempt.suggestion
    dsimp only
    split <;> exact hquery
  unfold attempt Attempt.analysis
  dsimp only
  split <;> exact hsuggestion

/-- What trying functions of a listing does to a run whose writer has written `texts` before. -/
structure Handles (job : Job) (location : Location) (texts : List Text) (run : Run)
    (trials : List Trial) (output : Path) (progress : Progress) : Prop where
  calls : progress.run.calls = run.calls ++ trials.flatMap fun trial => job.callsFor trial.block
  replies : progress.run.replies = run.replies.drop trials.length
  result : progress.result = match haltIn? trials with
    | none => .ok ()
    | some halt => .error halt
  changes : Writer.ChangesOnly location run.tree progress.run.tree
  writer : ∃ w, progress.writer = some w ∧ w.path = output ∧ w.WritesTo location ∧
    ((∀ halt ∈ haltIn? trials, ¬halt.IsUnencodable) →
      w.Wrote location (texts ++ completed trials) progress.run.tree ∧
        (completed trials = [] → progress.run.tree = run.tree))

theorem handles_nil (hw : w.Wrote location texts run.tree) :
    job.Handles location texts run [] w.path ⟨.ok (), some w, run⟩ where
  calls := (List.append_nil _).symm
  replies := rfl
  result := rfl
  changes := fun _ _ => rfl
  writer := ⟨w, rfl, rfl, hw.writesTo, fun _ => ⟨by rwa [show completed [] = [] from rfl,
    List.append_nil], fun _ => rfl⟩⟩

theorem Handles.cons {block : Listing.Block} {text : Text} {trials : List Trial}
    {progress progress' : Progress}
    (h : job.Handles location texts run [⟨block, .ok text⟩] output progress)
    (h' : job.Handles location (texts ++ [text]) progress.run trials output progress') :
    job.Handles location texts run (⟨block, .ok text⟩ :: trials) output progress' where
  calls := by
    rw [h'.calls, h.calls]
    simp
  replies := by
    rw [h'.replies, h.replies, List.drop_drop]
    simp [Nat.add_comm]
  result := h'.result
  changes := h.changes.trans h'.changes
  writer := by
    obtain ⟨w, hw, hpath, hlocation, hwrote⟩ := h'.writer
    refine ⟨w, hw, hpath, hlocation, fun hhalt => ⟨?_, ?_⟩⟩
    · have hmore := (hwrote hhalt).1
      rwa [List.append_assoc] at hmore
    · intro hnone
      exact absurd hnone (by simp [completed, Except.toOption])

theorem handles_error {block : Listing.Block} {halt : Halt} {progress : Progress}
    (hw : w.Wrote location texts run.tree) (hresult : progress.result = .error halt)
    (hwriter : progress.writer = some w) (htree : progress.run.tree = run.tree)
    (hcalls : progress.run.calls = run.calls ++ job.callsFor block)
    (hreplies : progress.run.replies = run.replies.tail) :
    job.Handles location texts run [⟨block, .error halt⟩] w.path progress where
  calls := by simpa using hcalls
  replies := by rw [hreplies, List.length_singleton, List.drop_one]
  result := hresult
  changes := fun _ _ => by rw [htree]
  writer := by
    refine ⟨w, hwriter, rfl, hw.writesTo, fun _ => ⟨?_, fun _ => htree⟩⟩
    rwa [show completed [⟨block, .error halt⟩] = [] from rfl, List.append_nil, htree]

/-- One function: whatever is missing, the file keeps the blocks that it has. -/
theorem handles_analyzeBlock (hw : w.Wrote location texts run.tree)
    (hopen : w.CanOpen job.base location texts run.tree) (total index : Nat)
    (block : Listing.Block) :
    job.Handles location texts run
      [⟨block, job.outcome total index block
        (run.replies.headD (Service.backend job.settings).silence)⟩]
      w.path (job.analyzeBlock total index (some w) run block) := by
  have hattempt := attempt_calls job index block
    (run.replies.headD (Service.backend job.settings).silence)
  unfold analyzeBlock outcome
  dsimp only
  unfold attempt at hattempt ⊢
  cases hresult : (Attempt.analysis (Service.backend job.settings) job.settings index block.body
      (run.replies.headD (Service.backend job.settings).silence)).result with
  | error halt =>
    refine handles_error hw rfl rfl rfl ?_ rfl
    exact congrArg (run.calls ++ ·) hattempt
  | ok a =>
    dsimp only [Run.say]
    cases hstop : (job.report (index + 1) total a).stop with
    | some error =>
      refine handles_error hw rfl rfl rfl ?_ rfl
      exact congrArg (run.calls ++ ·) hattempt
    | none =>
      dsimp only [save, Run.withTree, Run.tookReply]
      cases hproblem : (Writer.addPieces [] (Writer.blockPieces block.separator a)).2 with
      | some problem =>
        -- the write has broken off, and what the file holds behind the blocks is left open
        obtain ⟨hwritten, hlocation, hchanges, hpath⟩ := Writer.write_of_problem hw hopen hproblem
        dsimp only
        refine ⟨?_, List.drop_one.symm, hwritten, hchanges, _, rfl, hpath, hlocation, ?_⟩
        · rw [hattempt]
          simp
        · intro hhalt
          exact absurd ⟨problem, rfl⟩ (hhalt _ rfl)
      | none =>
        have hencodable := (Writer.addPieces_problem_eq_none_iff _).1 hproblem
        obtain ⟨hwritten, hwrote, hchanges, hpath⟩ :=
          Writer.write_of_isEncodable hw hopen hencodable
        dsimp only
        refine ⟨?_, List.drop_one.symm, hwritten, hchanges, _, rfl, hpath, hwrote.writesTo, ?_⟩
        · rw [hattempt]
          simp
        · exact fun _ => ⟨hwrote, fun hnone => absurd hnone (by simp [completed, Except.toOption])⟩

/-- The functions of a listing, up to the first that is not completed. -/
theorem handles_analyzeBlocks (hw : w.Wrote location texts run.tree)
    (hopen : w.CanOpen job.base location texts run.tree) (total index : Nat)
    (blocks : List Listing.Block) :
    job.Handles location texts run (job.trials total index blocks run.replies) w.path
      (job.analyzeBlocks total index (some w) run blocks) := by
  induction blocks generalizing w texts run index with
  | nil => exact handles_nil hw
  | cons block rest ih =>
    have hstep := handles_analyzeBlock hw hopen total index block
    unfold analyzeBlocks trials
    dsimp only
    cases houtcome : job.outcome total index block
        (run.replies.headD (Service.backend job.settings).silence) with
    | error halt =>
      rw [houtcome] at hstep
      have hresult : (job.analyzeBlock total index (some w) run block).result = .error halt :=
        hstep.result
      rw [hresult]
      exact hstep
    | ok text =>
      rw [houtcome] at hstep
      have hresult : (job.analyzeBlock total index (some w) run block).result = .ok () :=
        hstep.result
      rw [hresult]
      obtain ⟨w', hw', hpath, -, hwrote⟩ := hstep.writer
      have hwrote' : w'.Wrote location (texts ++ [text])
          (job.analyzeBlock total index (some w) run block).run.tree :=
        (hwrote (by simp [haltIn?, Trial.halt?])).1
      -- the file is open by now
      have hopen' : w'.CanOpen job.base location (texts ++ [text])
          (job.analyzeBlock total index (some w) run block).run.tree :=
        fun hnone => absurd hnone (by simp)
      have hmore := ih hwrote' hopen' (index + 1)
      rw [hstep.replies, List.length_singleton, List.drop_one, hpath] at hmore
      dsimp only
      rw [hw']
      exact hstep.cons hmore

/-! ## Listings with a writer -/

/-- What taking a listing does to a run. Nothing changes but the output. -/
structure Takes (job : Job) (location : Location) (run : Run) (visit : Visit)
    (step : Except Halt Unit × Run) : Prop where
  result : step.1 = match visit.halt with
    | none => .ok ()
    | some halt => .error halt
  calls : step.2.calls = run.calls ++ visit.trials.flatMap fun trial => job.callsFor trial.block
  replies : step.2.replies = run.replies.drop visit.trials.length
  changes : Writer.ChangesOnly location run.tree step.2.tree
  output : (∀ halt ∈ visit.halt, ¬halt.IsUnencodable) →
    step.2.tree.node? location = visit.leaves (run.tree.node? location)

theorem takes_nothing {path : Path} {halt : Halt} {step : Except Halt Unit × Run}
    (hresult : step.1 = .error halt) (hcalls : step.2.calls = run.calls)
    (hreplies : step.2.replies = run.replies) (htree : step.2.tree = run.tree) :
    job.Takes location run ⟨path, [], some halt⟩ step where
  result := hresult
  calls := hcalls.trans (List.append_nil _).symm
  replies := hreplies
  changes := fun _ _ => by rw [htree]
  output := fun _ => by rw [htree]; rfl

theorem finish_run {progress : Progress} (hwriter : progress.writer = some w) :
    (job.finish progress).2.calls = progress.run.calls ∧
      (job.finish progress).2.replies = progress.run.replies ∧
      (job.finish progress).2.tree = (w.close progress.run.tree).2.1 := by
  unfold finish
  rw [hwriter]
  dsimp only
  split <;> exact ⟨rfl, rfl, rfl⟩

theorem finish_result {progress : Progress} (hwriter : progress.writer = some w) :
    (job.finish progress).1 = match progress.result with
      | .error halt => .error halt
      | .ok () =>
        match (job.savedLine w.path).stop with
        | none => .ok ()
        | some error => .error (.escaped (.unshowable error)) := by
  unfold finish
  rw [hwriter]
  dsimp only
  rw [Writer.close_path]
  split
  · next hresult => rw [hresult]; rfl
  · next hresult => rw [hresult]

theorem takes_finish {path : Path} {trials : List Trial} {progress : Progress}
    (h : job.Handles location [] run trials output progress) :
    job.Takes location run
      ⟨path, trials,
        (haltIn? trials).or ((job.savedLine output).stop.map (.escaped ∘ .unshowable))⟩
      (job.finish progress) := by
  obtain ⟨w, hw, hpath, hlocation, hwrote⟩ := h.writer
  obtain ⟨hcalls, hreplies, htree⟩ := job.finish_run hw
  refine ⟨?_, hcalls.trans h.calls, hreplies.trans h.replies, ?_, ?_⟩
  · rw [finish_result hw, h.result, hpath]
    cases haltIn? trials with
    | some halt => rfl
    | none => cases (job.savedLine output).stop <;> rfl
  · rw [htree]
    exact h.changes.trans (Writer.close_changesOnly hlocation)
  · intro hhalt
    have hencoded : ∀ halt ∈ haltIn? trials, ¬halt.IsUnencodable := by
      intro halt hmem
      refine hhalt halt ?_
      rw [hmem]
      rfl
    obtain ⟨hblocks, hnone⟩ := hwrote hencoded
    rw [List.nil_append] at hblocks
    rw [htree, Writer.close_of_wrote hblocks, Visit.leaves]
    split
    · next hempty => rw [hnone hempty]
    · next hsome => exact (hblocks.opened hsome).2

theorem takes_analyzeListing (hwrite : job.task.write = true) {path : Path}
    (houtput : outputPath? path = some output) {opened : FileTree}
    (hopen : run.tree.openForWriting job.base output job.task.overwrite = .ok (location, opened)) :
    job.Takes location run (job.visit run.tree run.replies path) (job.analyzeListing run path) := by
  unfold analyzeListing visit
  dsimp only [Run.say]
  cases hstart : (job.startLine path).stop with
  | some error => exact takes_nothing rfl rfl rfl rfl
  | none =>
    dsimp only
    unfold analyzeText
    dsimp only
    cases hread : Listing.read run.tree job.base path with
    | error halt => exact takes_nothing rfl rfl rfl rfl
    | ok text =>
      dsimp only
      cases hblocks : job.blocks text with
      | nil => exact takes_nothing rfl rfl rfl rfl
      | cons block rest =>
        rw [houtput]
        dsimp only
        rw [if_pos hwrite]
        have hnew : (Writer.new output job.task.overwrite).Wrote location []
            ((run.say (job.startLine path)).2.note (job.blocksLog text)).tree :=
          Writer.wrote_new _ _ _ _
        have hhandles := handles_analyzeBlocks hnew (fun _ => ⟨opened, hopen⟩)
          (block :: rest).length 0 (block :: rest)
        exact takes_finish
          ⟨hhandles.calls, hhandles.replies, hhandles.result, hhandles.changes, hhandles.writer⟩

end Nomenclator.Command.Job

import Mathlib.Data.List.Nodup
import Nomenclator.Proofs.Command.Answered
import Nomenclator.Proofs.Command.Steps
import Nomenclator.Proofs.Listing.Discovery

/-!
# What a run leaves behind

A run takes its listings in order and ends at the first that fails. Every output holds what was
completed of its listing; where that is nothing, and everywhere else, the files are as they were.
-/

namespace Nomenclator.Command.Job

open FileTree

variable {job : Job} {tree : FileTree}

/-! ## Files -/

/-- The outputs of the listings can be opened, are distinct, and are no listings themselves. -/
structure Outputs (job : Job) (tree : FileTree) (paths : List Path) (out : Path → Location) :
    Prop where
  opens : ∀ path ∈ paths, ∃ output opened, outputPath? path = some output ∧
    tree.openForWriting job.base output job.task.overwrite = .ok (out path, opened)
  distinct : (paths.map out).Nodup
  apart : ∀ path ∈ paths, ∀ input ∈ paths, out path ≠ Listing.location tree job.base input

theorem Outputs.tail {path : Path} {rest : List Path} {out : Path → Location}
    (h : job.Outputs tree (path :: rest) out) : job.Outputs tree rest out where
  opens := fun p hp => h.opens p (List.mem_cons_of_mem _ hp)
  distinct := (List.nodup_cons.1 h.distinct).2
  apart := fun p hp input hinput =>
    h.apart p (List.mem_cons_of_mem _ hp) input (List.mem_cons_of_mem _ hinput)

theorem Outputs.out_ne {path p : Path} {rest : List Path} {out : Path → Location}
    (h : job.Outputs tree (path :: rest) out) (hp : p ∈ rest) : out p ≠ out path := by
  intro heq
  exact (List.nodup_cons.1 h.distinct).1 (heq ▸ List.mem_map_of_mem hp)

/-- What taking listings does to a run that has changed the tree before. -/
structure Leaves (job : Job) (tree : FileTree) (out : Path → Location) (run : Run)
    (visits : List Visit) (step : Except Halt Unit × Run) : Prop where
  result : step.1 = match visits.findSome? Visit.halt with
    | none => .ok ()
    | some halt => .error halt
  calls : step.2.calls = run.calls ++
    (visits.flatMap Visit.trials).flatMap fun trial => job.callsFor trial.block
  outputs : ∀ visit ∈ visits, (∀ halt ∈ visit.halt, ¬halt.IsUnencodable) →
    step.2.tree.node? (out visit.path) = visit.leaves (tree.node? (out visit.path))
  others : ∀ l, (∀ visit ∈ visits, l ≠ out visit.path) → step.2.tree.node? l = run.tree.node? l

variable {run : Run} {out : Path → Location} {changed : Location → Prop}

theorem visit_of_agreesOff (hagree : FileTree.AgreesOff changed tree run.tree)
    (hleaves : FileTree.OnlyLeaves changed tree) {path : Path} (hfile : tree.HasFile job.base path)
    (hsame : ¬changed (Listing.location tree job.base path)) (replies : List Service.Reply) :
    job.visit run.tree replies path = job.visit tree replies path := by
  obtain ⟨location, bytes, hlookup⟩ := hfile
  have hlocation : Listing.location tree job.base path = location := by
    rw [Listing.location, hlookup]
  have hread : run.tree.read job.base path = tree.read job.base path := by
    rw [FileTree.read_of_agreesOff hagree hleaves hlookup (hlocation ▸ hsame), FileTree.read,
      hlookup]
  unfold visit Listing.read
  rw [hread]

theorem Takes.leaves {visit : Visit} {step : Except Halt Unit × Run}
    (h : job.Takes (out visit.path) run visit step)
    (hbefore : run.tree.node? (out visit.path) = tree.node? (out visit.path)) :
    job.Leaves tree out run [visit] step where
  result := by
    rw [h.result]
    cases hhalt : visit.halt <;> simp [hhalt]
  calls := by simpa using h.calls
  outputs := by
    intro visit' hvisit hhalt
    obtain rfl := List.mem_singleton.1 hvisit
    rw [h.output hhalt, hbefore]
  others := fun l hl => h.changes l (hl visit List.mem_cons_self)

theorem Leaves.cons {visit : Visit} {visits : List Visit} {step step' : Except Halt Unit × Run}
    (h : job.Leaves tree out run [visit] step) (hhalt : visit.halt = none)
    (h' : job.Leaves tree out step.2 visits step')
    (hapart : ∀ visit' ∈ visits, out visit.path ≠ out visit'.path) :
    job.Leaves tree out run (visit :: visits) step' where
  result := by rw [h'.result, List.findSome?_cons, hhalt]
  calls := by
    rw [h'.calls, h.calls]
    simp
  outputs := by
    intro visit' hvisit hencoded
    rcases List.mem_cons.1 hvisit with rfl | hvisit
    · rw [h'.others _ hapart, h.outputs _ List.mem_cons_self hencoded]
    · exact h'.outputs visit' hvisit hencoded
  others := by
    intro l hl
    obtain ⟨hfirst, hrest⟩ := List.forall_mem_cons.1 hl
    rw [h'.others l hrest, h.others l (by simpa using hfirst)]

theorem leaves_analyzeListings (hwrite : job.task.write = true)
    (hagree : FileTree.AgreesOff changed tree run.tree)
    (hleaves : FileTree.OnlyLeaves changed tree) {paths : List Path}
    (hfiles : ∀ path ∈ paths, tree.HasFile job.base path) (houtputs : job.Outputs tree paths out)
    (hout : ∀ path ∈ paths, ¬changed (out path))
    (hin : ∀ path ∈ paths, ¬changed (Listing.location tree job.base path)) :
    job.Leaves tree out run (job.visits tree paths run.replies)
      (job.analyzeListings run paths) := by
  -- `changed` grows by one output a listing; what is still to be read or opened is never in it
  induction paths generalizing run changed with
  | nil => exact ⟨rfl, by simp [visits, analyzeListings], by simp [visits], fun _ _ => rfl⟩
  | cons path rest ih =>
    obtain ⟨output, opened, houtput, hopen⟩ := houtputs.opens path List.mem_cons_self
    have hsame := hout path List.mem_cons_self
    have hbefore : run.tree.node? (out path) = tree.node? (out path) := hagree _ hsame
    have htakes := takes_analyzeListing hwrite houtput
      (FileTree.openForWriting_of_agreesOff hagree hleaves hopen hsame)
    rw [visit_of_agreesOff hagree hleaves (hfiles path List.mem_cons_self)
      (hin path List.mem_cons_self)] at htakes
    have hpath : (job.visit tree run.replies path).path = path := visit_path _ _
    have hfirst : job.Leaves tree out run [job.visit tree run.replies path]
        (job.analyzeListing run path) :=
      Takes.leaves (by rwa [hpath]) (by rwa [hpath])
    unfold analyzeListings visits
    dsimp only
    generalize job.analyzeListing run path = step at htakes hfirst
    obtain ⟨result, after⟩ := step
    obtain rfl := htakes.result
    cases hhalt : (job.visit tree run.replies path).halt with
    | some halt =>
      rw [hhalt] at hfirst
      exact hfirst
    | none =>
      rw [hhalt] at hfirst
      have hagree' : FileTree.AgreesOff (fun l => changed l ∨ l = out path) tree after.tree := by
        intro l hl
        rw [not_or] at hl
        rw [htakes.changes l hl.2, hagree l hl.1]
      have hleaves' : FileTree.OnlyLeaves (fun l => changed l ∨ l = out path) tree := by
        rintro l (hl | rfl)
        · exact hleaves l hl
        · exact (FileTree.openForWriting_eq_ok hopen).2.1.imp id And.right
      have hreplies : after.replies =
          run.replies.drop (job.visit tree run.replies path).trials.length := htakes.replies
      have hnext := ih hagree' hleaves' (fun p hp => hfiles p (List.mem_cons_of_mem _ hp))
        houtputs.tail
        (fun p hp h => h.elim (hout p (List.mem_cons_of_mem _ hp)) (houtputs.out_ne hp))
        (fun p hp h => h.elim (hin p (List.mem_cons_of_mem _ hp))
          (houtputs.apart path List.mem_cons_self p (List.mem_cons_of_mem _ hp)).symm)
      rw [hreplies] at hnext
      refine hfirst.cons hhalt hnext fun visit' hvisit => ?_
      have hmem := (map_path_visits _ _).subset (List.mem_map_of_mem (f := Visit.path) hvisit)
      rw [hpath]
      exact (houtputs.out_ne hmem).symm

/-! ## Runs -/

/-- What a run that took `paths` leaves behind. The listings that it began are the first of them,
and only the last can have ended it. There is one call for each function that was tried, if there
is an address to call. An output is what its listing makes of it, unless it ended in a block that
cannot be encoded, and no other node has changed. -/
structure Aftermath (job : Job) (before : Run) (paths : List Path) (out : Path → Location)
    (visits : List Visit) (ending : Ending) (after : Run) : Prop where
  order : visits.map Visit.path <+: paths
  first : ∀ visit ∈ visits.dropLast, visit.halt = none
  all : (∀ visit ∈ visits, visit.halt = none) → visits.map Visit.path = paths
  tries : ∀ visit ∈ visits, visit.trials = [] ∧ job.IsUntried before.tree visit ∨
    ∃ text, job.TriesInOrder before.tree visit text
  calls : ∀ url, Service.url job.settings Service.generateEndpoint = .ok url →
    after.calls = before.calls ++
      (visits.flatMap Visit.trials).map fun trial => job.call url trial.block
  silent : ∀ halt, Service.url job.settings Service.generateEndpoint = .error halt →
    after.calls = before.calls
  outputs : ∀ visit ∈ visits, (∀ halt ∈ visit.halt, ¬halt.IsUnencodable) →
    after.tree.node? (out visit.path) = visit.leaves (before.tree.node? (out visit.path))
  later : ∀ path ∈ paths, path ∉ visits.map Visit.path →
    after.tree.node? (out path) = before.tree.node? (out path)
  others : ∀ l, (∀ visit ∈ visits, l ≠ out visit.path) →
    after.tree.node? l = before.tree.node? l
  done : ending = .exit exitDone ↔ ∀ visit ∈ visits, visit.halt = none
  failed : ∀ visit ∈ visits, ∀ failure, visit.halt = some (.failed failure) →
    (Report.ofFailure job.width failure).stop = none →
      ∃ code, failure.ExitsWith code ∧ ending = .exit code

theorem flatMap_callsFor_ok {url : Text} (trials : List Trial)
    (h : Service.url job.settings Service.generateEndpoint = .ok url) :
    (trials.flatMap fun trial => job.callsFor trial.block) =
      trials.map fun trial => job.call url trial.block := by
  unfold callsFor
  rw [h]
  exact List.map_eq_flatMap.symm

theorem flatMap_callsFor_error {halt : Halt} (trials : List Trial)
    (h : Service.url job.settings Service.generateEndpoint = .error halt) :
    (trials.flatMap fun trial => job.callsFor trial.block) = [] := by
  unfold callsFor
  rw [h]
  exact List.flatMap_eq_nil_iff.2 fun _ _ => rfl

theorem leaves_work (hwrite : job.task.write = true) {paths : List Path}
    (hpaths : (Listing.discover run.tree job.base Listing.defaultExtensions job.task.paths).1 =
      .ok paths)
    (houtputs : job.Outputs run.tree paths out) :
    job.Leaves run.tree out run (job.visits run.tree paths run.replies) (job.work run) := by
  have hwork : job.work run = job.analyzeListings (job.discovered run).2 paths := by
    unfold work discovered
    dsimp only
    rw [hpaths]
  have hagree : FileTree.AgreesOff (fun _ => False) run.tree (job.discovered run).2.tree :=
    fun _ _ => rfl
  have hleaves := leaves_analyzeListings hwrite hagree (fun _ h => h.elim)
    (Listing.hasFile_of_discover hpaths) houtputs (fun _ _ => id) (fun _ _ => id)
  rw [← hwork] at hleaves
  exact ⟨hleaves.result, hleaves.calls, hleaves.outputs, hleaves.others⟩

/-- A run whose outputs can be opened takes its listings as `visits` has them, and leaves behind
what they leave. -/
theorem perform_aftermath (job : Job) (run : Run) (paths : List Path) (out : Path → Location)
    (hwrite : job.task.write = true)
    (hpaths : (Listing.discover run.tree job.base Listing.defaultExtensions job.task.paths).1 =
      .ok paths)
    (houtputs : job.Outputs run.tree paths out) :
    job.Aftermath run paths out (job.visits run.tree paths run.replies) (job.perform run).1
      (job.perform run).2 := by
  have hleaves := leaves_work hwrite hpaths houtputs
  obtain ⟨hcalls, htree⟩ := job.conclude_run (job.work run)
  have hothers : ∀ l, (∀ visit ∈ job.visits run.tree paths run.replies, l ≠ out visit.path) →
      (job.perform run).2.tree.node? l = run.tree.node? l :=
    fun l hl => htree ▸ hleaves.others l hl
  rw [hleaves.calls] at hcalls
  refine ⟨map_path_visits _ _, halt_of_mem_dropLast_visits _ _, map_path_of_halt_none,
    forall_mem_visits visit_tries _ _, ?_, ?_, ?_, ?_, hothers, ?_, ?_⟩
  · intro url hurl
    exact hcalls.trans (by rw [flatMap_callsFor_ok _ hurl])
  · intro halt hurl
    exact hcalls.trans (by rw [flatMap_callsFor_error _ hurl, List.append_nil])
  · intro visit hvisit hencoded
    exact htree ▸ hleaves.outputs visit hvisit hencoded
  · intro path hpath hlater
    -- no two outputs meet, so no listing that was taken has changed this one
    refine hothers _ fun visit hvisit heq => hlater ?_
    have hmem := List.mem_map_of_mem (f := Visit.path) hvisit
    have hsame : path = visit.path :=
      List.inj_on_of_nodup_map houtputs.distinct hpath ((map_path_visits _ _).subset hmem) heq
    exact hsame ▸ hmem
  · unfold perform
    generalize job.work run = step at hleaves
    obtain ⟨result, after⟩ := step
    obtain rfl := hleaves.result
    cases hfind : (job.visits run.tree paths run.replies).findSome? Visit.halt with
    | none => exact iff_of_true (job.conclude_ok after) (List.findSome?_eq_none_iff.1 hfind)
    | some halt =>
      refine iff_of_false (job.conclude_error_ne halt after) fun hnone => ?_
      rw [List.findSome?_eq_none_iff.2 hnone] at hfind
      simp at hfind
  · intro visit hvisit failure hhalt hstop
    have htold := visits_isTold _ _ visit hvisit _ hhalt
    refine ⟨failure.exitCode, Failure.exitsWith_exitCode htold, ?_⟩
    unfold perform
    generalize job.work run = step at hleaves
    obtain ⟨result, after⟩ := step
    obtain rfl := hleaves.result
    rw [findSome?_of_dropLast (halt_of_mem_dropLast_visits _ _) hvisit hhalt]
    exact conclude_failed after hstop

/-! ## A run over a listing and one that is locked -/

/-- The first listing is one letter, and the second is locked. That has an output of an earlier run,
and there are replies for both. -/
def lockedRun : Run :=
  ⟨⟨[(["a.c"], .file (.bytes [0x78])), (["b.c"], .file (.locked .denied)),
    (["b.out.c"], .file (.bytes [0x6F]))]⟩, [plainReply, plainReply], [], [], []⟩

def lockedPaths : List Path := [here "a.c", here "b.c"]

def lockedOut (path : Path) : Location := if path = here "a.c" then ["a.out.c"] else ["b.out.c"]

/-- Takes each listing as one function, and may overwrite. -/
def lockedJob (settings : Settings) : Job :=
  ⟨⟨⟨none, none, none⟩, lockedPaths, false, true, true, false⟩, settings, [], 80⟩

theorem lockedRun_lookup :
    lockedRun.tree.lookup [] (here "a.c") = .ok (["a.c"], .file (.bytes [0x78])) ∧
      lockedRun.tree.lookup [] (here "b.c") = .ok (["b.c"], .file (.locked .denied)) :=
  ⟨(isStraight_here (by decide) _).lookup rfl (by simp),
    (isStraight_here (by decide) _).lookup rfl (by simp)⟩

theorem lockedJob_discover (settings : Settings) :
    (Listing.discover lockedRun.tree (lockedJob settings).base Listing.defaultExtensions
      (lockedJob settings).task.paths).1 = .ok lockedPaths := by
  obtain ⟨hfirst, hother⟩ := lockedRun_lookup
  have hne : ("a.c" : Text) ≠ "b.c" := by decide
  have hfiles : ∀ path ∈ lockedPaths, lockedRun.tree.HasFile [] path :=
    List.forall_mem_cons.2 ⟨⟨_, _, hfirst⟩, List.forall_mem_singleton.2 ⟨_, _, hother⟩⟩
  have hdistinct : (lockedPaths.map (Listing.location lockedRun.tree [])).Nodup := by
    simp [lockedPaths, Listing.location, hfirst, hother, hne]
  exact Listing.discover_of_files hfiles hdistinct

theorem lockedJob_outputs (settings : Settings) :
    (lockedJob settings).Outputs lockedRun.tree lockedPaths lockedOut where
  opens := by
    have hfirst : lockedRun.tree.openForWriting [] (here "a.out.c") true = .ok (["a.out.c"], _) :=
      (isStraight_here (by decide) _).open_over (.inl rfl)
    have hother : lockedRun.tree.openForWriting [] (here "b.out.c") true = .ok (["b.out.c"], _) :=
      (isStraight_here (by decide) _).open_over (.inr ⟨_, rfl⟩)
    simp only [lockedPaths, List.forall_mem_cons]
    exact ⟨⟨_, _, by decide, hfirst⟩, ⟨_, _, by decide, hother⟩, by simp⟩
  distinct := by decide
  apart := by
    obtain ⟨hfirst, hother⟩ := lockedRun_lookup
    have hlocation : ∀ input ∈ lockedPaths,
        Listing.location lockedRun.tree [] input ∈ ([["a.c"], ["b.c"]] : List Location) := by
      simp [lockedPaths, Listing.location, hfirst, hother]
    have hne : ∀ path ∈ lockedPaths, ∀ l ∈ ([["a.c"], ["b.c"]] : List Location),
        lockedOut path ≠ l := by decide
    exact fun path hpath input hinput => hne path hpath _ (hlocation input hinput)

theorem lockedJob_read (settings : Settings) :
    Listing.read lockedRun.tree (lockedJob settings).base (here "a.c") = .ok "x" ∧
      Listing.read lockedRun.tree (lockedJob settings).base (here "b.c") =
        .error (.failed (.input (.unreadable "b.c" .denied))) := by
  have hletter : (∀ r ∈ ("x" : Text), Utf8.IsStable r) ∧ Utf8.isEncodable "x" = true := by decide
  have hfirst : lockedRun.tree.read [] (here "a.c") = .ok (Utf8.bytesOf "x") :=
    (isStraight_here (by decide) _).read rfl
  constructor
  · exact Listing.read_of_isStable hfirst hletter.1 hletter.2
  · show Listing.read lockedRun.tree [] (here "b.c") = _
    rw [Listing.read, FileTree.read, lockedRun_lookup.2]
    rfl

theorem lockedJob_visits :
    (lockedJob .default).visits lockedRun.tree lockedPaths lockedRun.replies =
    [⟨here "a.c", [⟨⟨[], "x"⟩, .ok (plainBlock "x")⟩], none⟩,
      ⟨here "b.c", [], some (.failed (.input (.unreadable "b.c" .denied)))⟩] := by
  have hplain : Console.IsPlain (here "a.c").toText ∧ Console.IsPlain (here "b.c").toText ∧
      Console.IsPlain (here "a.out.c").toText := by decide
  obtain ⟨hread, hlocked⟩ := lockedJob_read .default
  have hfirst : (lockedJob .default).visit lockedRun.tree lockedRun.replies (here "a.c") =
      ⟨here "a.c", [⟨⟨[], "x"⟩, .ok (plainBlock "x")⟩], none⟩ := by
    refine visit_plainReply rfl rfl hread rfl (by decide) rfl hplain.1 fun output houtput => ?_
    obtain rfl : here "a.out.c" = output := Option.some.inj houtput
    exact hplain.2.2
  have hother (replies : List Service.Reply) :
      (lockedJob .default).visit lockedRun.tree replies (here "b.c") =
        ⟨here "b.c", [], some (.failed (.input (.unreadable "b.c" .denied)))⟩ := by
    rw [visit, startLine_stop _ hplain.2.1.1 hplain.2.1.2, hlocked]
  rw [lockedPaths, visits, hfirst]
  dsimp only
  rw [visits, hother]

/-- The run writes the first output, leaves the second as it was, and exits with the code for
inputs. -/
theorem perform_aftermath_locked :
    (lockedJob .default).task.write = true ∧
      (Listing.discover lockedRun.tree (lockedJob .default).base Listing.defaultExtensions
        (lockedJob .default).task.paths).1 = .ok lockedPaths ∧
      (lockedJob .default).Outputs lockedRun.tree lockedPaths lockedOut ∧
      (lockedJob .default).Aftermath lockedRun lockedPaths lockedOut
        ((lockedJob .default).visits lockedRun.tree lockedPaths lockedRun.replies)
        ((lockedJob .default).perform lockedRun).1 ((lockedJob .default).perform lockedRun).2 ∧
      ((lockedJob .default).perform lockedRun).2.tree.node? ["a.out.c"] =
        some (.file (.bytes (Writer.content [plainBlock "x"]))) ∧
      ((lockedJob .default).perform lockedRun).2.tree.node? ["b.out.c"] =
        some (.file (.bytes [0x6F])) ∧
      ((lockedJob .default).perform lockedRun).1 = .exit 2 := by
  have haftermath :=
    perform_aftermath _ _ _ _ rfl (lockedJob_discover .default) (lockedJob_outputs .default)
  refine ⟨rfl, lockedJob_discover _, lockedJob_outputs _, haftermath, ?_⟩
  rw [lockedJob_visits] at haftermath
  have houtputs := haftermath.outputs
  have hfailed := haftermath.failed
  simp only [List.forall_mem_cons] at houtputs hfailed
  obtain ⟨hfirst, hother, -⟩ := houtputs
  have hshown : (Report.ofFailure (lockedJob .default).width
      (.input (.unreadable "b.c" .denied))).stop = none := by decide +kernel
  obtain ⟨code, hcode, hending⟩ := hfailed.2.1 _ rfl hshown
  refine ⟨hfirst (by simp), hother ?_, ?_⟩
  · rintro halt hhalt ⟨problem, hproblem⟩
    simp [hproblem] at hhalt
  · rw [hending, hcode]

/-- Settings without an address. -/
def noAddress : Settings := { Settings.default with baseUrl := .text " " }

theorem lockedJob_visits_noAddress :
    (lockedJob noAddress).visits lockedRun.tree lockedPaths lockedRun.replies =
      [⟨here "a.c", [⟨⟨[], "x"⟩, .error (.failed (.service .noBaseUrl))⟩],
        some (.failed (.service .noBaseUrl))⟩] := by
  have hstart : ((lockedJob noAddress).startLine (here "a.c")).stop = none :=
    startLine_stop _ (by decide) (by decide)
  have houtcome (reply : Service.Reply) : (lockedJob noAddress).outcome 1 0 ⟨[], "x"⟩ reply =
      .error (.failed (.service .noBaseUrl)) := by
    have hresult : ((lockedJob noAddress).attempt 0 ⟨[], "x"⟩ reply).result =
        .error (.failed (.service .noBaseUrl)) := by
      rw [attempt, Attempt.analysis_result, Attempt.suggestion_result]
      rfl
    rw [outcome, hresult]
  have hblocks : (lockedJob noAddress).blocks "x" = [⟨[], "x"⟩] := rfl
  rw [lockedPaths, visits, visit, hstart, (lockedJob_read noAddress).1]
  dsimp only
  rw [hblocks]
  dsimp only [List.length_singleton]
  rw [trials, houtcome]
  rfl

/-- Without an address a function is tried and no call is made. -/
theorem perform_calls_no_address :
    (lockedJob noAddress).task.write = true ∧
      (Listing.discover lockedRun.tree (lockedJob noAddress).base Listing.defaultExtensions
        (lockedJob noAddress).task.paths).1 = .ok lockedPaths ∧
      (lockedJob noAddress).Outputs lockedRun.tree lockedPaths lockedOut ∧
      (((lockedJob noAddress).visits lockedRun.tree lockedPaths lockedRun.replies).flatMap
        Visit.trials).length = 1 ∧
      ((lockedJob noAddress).perform lockedRun).2.calls = [] := by
  have hleaves := leaves_work rfl (lockedJob_discover noAddress) (lockedJob_outputs noAddress)
  have hcalls := ((lockedJob noAddress).conclude_run ((lockedJob noAddress).work lockedRun)).1
  rw [hleaves.calls, lockedJob_visits_noAddress] at hcalls
  exact ⟨rfl, lockedJob_discover _, lockedJob_outputs _, by rw [lockedJob_visits_noAddress]; rfl,
    hcalls⟩

end Nomenclator.Command.Job

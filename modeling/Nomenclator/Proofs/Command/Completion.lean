import Nomenclator.Proofs.Command.Aftermath
import Nomenclator.Proofs.Command.Existing

/-!
# Runs that end well

A run that ends well has opened the output of each of its listings. Without overwriting that alone
keeps the outputs apart from each other and from what was read; with it, they may meet, and then the
last one counts.
-/

namespace Nomenclator

namespace Command.Job

open FileTree

variable {job : Job} {before : FileTree} {run after : Run} {path : Path}

/-! ## Listings that were completed -/

def Opens (job : Job) (tree : FileTree) (path : Path) (location : Location) : Prop :=
  ∃ output opened, outputPath? path = some output ∧
    tree.openForWriting job.base output job.task.overwrite = .ok (location, opened)

/-- What a listing that was completed has done: its output was opened, holds a file now, and nothing
else has changed. -/
structure Saves (job : Job) (run after : Run) (path : Path) (location : Location) : Prop where
  opens : job.Opens run.tree path location
  changes : Writer.ChangesOnly location run.tree after.tree
  file : ∃ bytes, after.tree.node? location = some (.file (.bytes bytes))

theorem completed_ne_nil {trials : List Trial} (hsome : trials ≠ [])
    (h : ∀ trial ∈ trials, trial.halt? = none) : completed trials ≠ [] := by
  obtain ⟨trial, rest, rfl⟩ := List.exists_cons_of_ne_nil hsome
  have hdone := h trial List.mem_cons_self
  obtain ⟨block, outcome⟩ := trial
  cases outcome with
  | error halt => simp [Trial.halt?] at hdone
  | ok text => simp [completed, Except.toOption]

theorem completed_visit_ne_nil {tree : FileTree} {replies : List Service.Reply}
    (h : (job.visit tree replies path).halt = none) :
    completed (job.visit tree replies path).trials ≠ [] := by
  rcases @visit_tries job tree replies path with ⟨-, huntried⟩ | ⟨text, htries⟩
  · exact absurd h huntried.halt_ne_none
  · obtain ⟨hblocks, hdone⟩ := htries.all h
    refine completed_ne_nil (fun hnone => htries.found ?_) hdone
    rw [← hblocks, hnone]
    rfl

theorem Takes.halt_none {location : Location} {visit : Visit}
    (h : job.Takes location run visit (.ok (), after)) : visit.halt = none := by
  have hresult := h.result
  cases hhalt : visit.halt with
  | none => rfl
  | some halt => simp [hhalt] at hresult

theorem saves_of_analyzeListing (hwrite : job.task.write = true)
    (h : job.analyzeListing run path = (.ok (), after)) :
    ∃ location, job.Saves run after path location := by
  obtain ⟨output, location, opened, houtput, hopen⟩ :=
    opens_of_analyzeListing hwrite (congrArg Prod.fst h)
  have htakes := takes_analyzeListing hwrite houtput hopen
  rw [h] at htakes
  have hhalt := htakes.halt_none
  have hleaves := htakes.output (by simp [hhalt])
  rw [Visit.leaves, if_neg (completed_visit_ne_nil hhalt)] at hleaves
  exact ⟨location, ⟨output, opened, houtput, hopen⟩, htakes.changes, _, hleaves⟩

theorem Saves.sameInner {location : Location} (h : job.Saves run after path location) :
    SameInner run.tree after.tree := by
  obtain ⟨output, opened, -, hopen⟩ := h.opens
  exact h.changes.sameInner hopen h.file

/-! ## Where outputs are -/

/-- Where the output of a listing is once it is open. -/
def outputLocation (job : Job) (tree : FileTree) (path : Path) : Location :=
  match (outputPath? path).map fun output => tree.find job.base output job.task.overwrite with
  | some (.ok place) => place.location
  | _ => []

theorem Opens.location_eq {tree : FileTree} {location : Location}
    (h : job.Opens tree path location) : location = job.outputLocation tree path := by
  obtain ⟨output, opened, houtput, hopen⟩ := h
  obtain ⟨-, -, place, hfind, hplace⟩ := openForWriting_eq_ok hopen
  rw [outputLocation, houtput, Option.map_some, hfind, ← hplace]

theorem Opens.of_later {location : Location} (h : job.Opens run.tree path location)
    (hsame : SameInner before run.tree)
    (honly : job.task.overwrite = false → OnlyCreates (fun _ => True) before run.tree) :
    job.Opens before path location := by
  obtain ⟨output, opened, houtput, hopen⟩ := h
  exact ⟨output, _, houtput, openForWriting_before hsame honly hopen⟩

theorem analyzeListings_cons_ok {rest : List Path}
    (h : job.analyzeListings run (path :: rest) = (.ok (), after)) :
    ∃ midway, job.analyzeListing run path = (.ok (), midway) ∧
      job.analyzeListings midway rest = (.ok (), after) := by
  unfold analyzeListings at h
  split at h
  · simp at h
  · next midway hfirst => exact ⟨midway, hfirst, h⟩

theorem analyzeListings_append_ok {earlier later : List Path}
    (h : job.analyzeListings run (earlier ++ later) = (.ok (), after)) :
    ∃ midway, job.analyzeListings run earlier = (.ok (), midway) ∧
      job.analyzeListings midway later = (.ok (), after) := by
  induction earlier generalizing run with
  | nil => exact ⟨run, rfl, h⟩
  | cons path rest ih =>
    obtain ⟨first, hfirst, hmore⟩ := analyzeListings_cons_ok h
    obtain ⟨midway, hrest, hlater⟩ := ih hmore
    refine ⟨midway, ?_, hlater⟩
    unfold analyzeListings
    rw [hfirst]
    exact hrest

theorem onlyCreates_of_exclusive {tree : FileTree} (hoverwrite : job.task.overwrite = false)
    (htree : OnlyCreates (fun _ => True) tree run.tree) :
    OnlyCreates (fun _ => True) tree (job.analyzeListing run path).2.tree :=
  onlyCreates_analyzeListing htree fun _ => ⟨hoverwrite, fun _ _ _ _ => trivial⟩

theorem opens_of_analyzeListings (hwrite : job.task.write = true)
    (hsame : SameInner before run.tree)
    (honly : job.task.overwrite = false → OnlyCreates (fun _ => True) before run.tree)
    {paths : List Path} (h : job.analyzeListings run paths = (.ok (), after)) :
    ∀ path ∈ paths, job.Opens before path (job.outputLocation before path) := by
  -- no listing changes where paths lead, so each output is where the tree before had it
  induction paths generalizing run with
  | nil => simp
  | cons path rest ih =>
    obtain ⟨midway, hfirst, hrest⟩ := analyzeListings_cons_ok h
    obtain ⟨location, hsaves⟩ := saves_of_analyzeListing hwrite hfirst
    have hopens := hsaves.opens.of_later hsame honly
    have hmidway := congrArg (fun step => step.2.tree) hfirst
    refine List.forall_mem_cons.2 ⟨hopens.location_eq ▸ hopens, ?_⟩
    refine ih (hsame.trans hsaves.sameInner) (fun hoverwrite => ?_) hrest
    rw [← hmidway]
    exact onlyCreates_of_exclusive hoverwrite (honly hoverwrite)

theorem distinct_of_analyzeListings (hwrite : job.task.write = true)
    (hoverwrite : job.task.overwrite = false)
    (honly : OnlyCreates (fun _ => True) before run.tree)
    {paths : List Path} (h : job.analyzeListings run paths = (.ok (), after)) :
    (paths.map (job.outputLocation before)).Nodup ∧
      ∀ path ∈ paths, run.tree.node? (job.outputLocation before path) = none := by
  induction paths generalizing run with
  | nil => simp
  | cons path rest ih =>
    obtain ⟨midway, hfirst, hrest⟩ := analyzeListings_cons_ok h
    obtain ⟨location, hsaves⟩ := saves_of_analyzeListing hwrite hfirst
    have hlocation := (hsaves.opens.of_later honly.sameInner fun _ => honly).location_eq
    have hmidway : OnlyCreates (fun _ => True) before midway.tree := by
      rw [← congrArg (fun step => step.2.tree) hfirst]
      exact onlyCreates_of_exclusive hoverwrite honly
    have hstep : OnlyCreates (fun _ => True) run.tree midway.tree := by
      rw [← congrArg (fun step => step.2.tree) hfirst]
      exact onlyCreates_of_exclusive hoverwrite (OnlyCreates.refl _ _)
    obtain ⟨hnodup, hfree⟩ := ih hmidway hrest
    obtain ⟨output, opened, -, hopen⟩ := hsaves.opens
    rw [hoverwrite] at hopen
    refine ⟨List.nodup_cons.2 ⟨fun hmem => ?_, hnodup⟩, List.forall_mem_cons.2 ⟨?_, ?_⟩⟩
    · -- a later output at this name would have met the file that is there now
      obtain ⟨later, hlater, heq⟩ := List.mem_map.1 hmem
      obtain ⟨bytes, hfile⟩ := hsaves.file
      rw [hlocation, ← heq, hfree later hlater] at hfile
      simp at hfile
    · rw [← hlocation]
      exact (openForWriting_exclusive hopen).2.node?
    · intro later hlater
      cases hnode : run.tree.node? (job.outputLocation before later) with
      | none => rfl
      | some node =>
        have hkept := hstep.kept hnode
        rw [hfree later hlater] at hkept
        simp at hkept

/-! ## Runs -/

/-- No two outputs are the same file, and none of them is a listing. -/
structure Apart (job : Job) (tree : FileTree) (paths : List Path) : Prop where
  distinct : (paths.map (job.outputLocation tree)).Nodup
  apart : ∀ path ∈ paths, ∀ input ∈ paths,
    job.outputLocation tree path ≠ Listing.location tree job.base input

theorem node?_location {tree : FileTree} (hfile : tree.HasFile job.base path) :
    ∃ content, tree.node? (Listing.location tree job.base path) = some (.file content) := by
  obtain ⟨location, content, hlookup⟩ := hfile
  refine ⟨content, ?_⟩
  rw [Listing.location, hlookup]
  exact node?_of_find_file (lookup_eq_ok_iff.1 hlookup)

theorem outputs_of_analyzeListings (hwrite : job.task.write = true) {paths : List Path}
    (hfiles : ∀ path ∈ paths, run.tree.HasFile job.base path)
    (hapart : job.task.overwrite = true → job.Apart run.tree paths)
    (h : job.analyzeListings run paths = (.ok (), after)) :
    job.Outputs run.tree paths (job.outputLocation run.tree) := by
  have hopens := opens_of_analyzeListings hwrite (fun _ => .inl rfl)
    (fun _ => OnlyCreates.refl _ run.tree) h
  cases hoverwrite : job.task.overwrite with
  | true => exact ⟨hopens, (hapart hoverwrite).distinct, (hapart hoverwrite).apart⟩
  | false =>
    -- an input is a file, and each output was opened where nothing was
    obtain ⟨hdistinct, hfree⟩ :=
      distinct_of_analyzeListings hwrite hoverwrite (OnlyCreates.refl _ run.tree) h
    refine ⟨hopens, hdistinct, fun path hpath input hinput heq => ?_⟩
    obtain ⟨bytes, hfile⟩ := node?_location (hfiles input hinput)
    rw [← heq, hfree path hpath] at hfile
    simp at hfile

/-- A function that was completed, with the block of what was found out about it. -/
def IsCompleted (job : Job) (trial : Trial) : Prop :=
  ∃ index reply a, (job.attempt index trial.block reply).result = .ok a ∧
    trial.outcome = .ok (Writer.blockText trial.block.separator a)

/-- The output of a listing holds the blocks of all its functions, and nothing else. -/
structure HoldsOwnBlocks (job : Job) (before after : FileTree) (visit : Visit) : Prop where
  read : ∃ text, Listing.read before job.base visit.path = .ok text ∧
    visit.trials.map Trial.block = job.blocks text
  completed : ∀ trial ∈ visit.trials, job.IsCompleted trial
  output : ∃ output, outputPath? visit.path = some output ∧
    after.read job.base output = .ok (Writer.content (Command.completed visit.trials))

/-- What a run that ended well has done with `paths`. Each was read as it was before the run, and
still is, and its output holds its own blocks. -/
structure EndedWell (job : Job) (before : Run) (paths : List Path) (visits : List Visit)
    (after : Run) : Prop where
  order : visits.map Visit.path = paths
  fresh : ∀ earlier path later, paths = earlier ++ path :: later → ∃ midway,
    job.analyzeListings (job.discovered before).2 earlier = (.ok (), midway) ∧
      midway.tree.read job.base path = before.tree.read job.base path
  kept : ∀ path ∈ paths, after.tree.read job.base path = before.tree.read job.base path
  outputs : ∀ visit ∈ visits, job.HoldsOwnBlocks before.tree after.tree visit

theorem outcome_eq_ok {total index : Nat} {block : Listing.Block} {reply : Service.Reply}
    {text : Text} (h : job.outcome total index block reply = .ok text) :
    ∃ a, (job.attempt index block reply).result = .ok a ∧
      text = Writer.blockText block.separator a := by
  unfold outcome at h
  split at h
  · simp at h
  · next a ha =>
    split at h
    · simp at h
    · split at h
      · simp at h
      · injection h with h
        exact ⟨a, ha, h.symm⟩

theorem isCompleted_of_mem_trials {total index : Nat} {blocks : List Listing.Block}
    {replies : List Service.Reply} :
    ∀ trial ∈ job.trials total index blocks replies, trial.halt? = none →
      job.IsCompleted trial := by
  induction blocks generalizing index replies with
  | nil => simp [trials]
  | cons block rest ih =>
    unfold trials
    dsimp only
    split
    · simp [Trial.halt?]
    · next text houtcome =>
      refine List.forall_mem_cons.2 ⟨fun _ => ?_, ih⟩
      obtain ⟨a, ha, rfl⟩ := outcome_eq_ok houtcome
      exact ⟨index, _, a, ha, rfl⟩

theorem visits_isCompleted {tree : FileTree} (paths : List Path) (replies : List Service.Reply) :
    ∀ visit ∈ job.visits tree paths replies, ∀ trial ∈ visit.trials, trial.halt? = none →
      job.IsCompleted trial := by
  refine forall_mem_visits (fun replies path => ?_) paths replies
  unfold visit
  split
  · simp
  · split
    · simp
    · split
      · simp
      · exact isCompleted_of_mem_trials

theorem Outputs.onlyLeaves {tree : FileTree} {paths : List Path} {out : Path → Location}
    (h : job.Outputs tree paths out) : OnlyLeaves (fun l => ∃ path ∈ paths, l = out path) tree := by
  rintro l ⟨path, hpath, rfl⟩
  obtain ⟨output, opened, -, hopen⟩ := h.opens path hpath
  exact (openForWriting_eq_ok hopen).2.1.imp id And.right

theorem Outputs.earlier {tree : FileTree} {earlier later : List Path} {out : Path → Location}
    (h : job.Outputs tree (earlier ++ later) out) : job.Outputs tree earlier out where
  opens := fun path hpath => h.opens path (List.mem_append_left _ hpath)
  distinct := by
    have hdistinct := h.distinct
    rw [List.map_append] at hdistinct
    exact (List.nodup_append.1 hdistinct).1
  apart := fun path hpath input hinput =>
    h.apart path (List.mem_append_left _ hpath) input (List.mem_append_left _ hinput)

theorem Outputs.read_eq {tree tree' : FileTree} {paths : List Path} {out : Path → Location}
    (h : job.Outputs tree paths out)
    (hothers : ∀ l, (∀ path ∈ paths, l ≠ out path) → tree'.node? l = tree.node? l) {input : Path}
    (hfile : tree.HasFile job.base input)
    (hapart : ∀ path ∈ paths, out path ≠ Listing.location tree job.base input) :
    tree'.read job.base input = tree.read job.base input := by
  have hagree : AgreesOff (fun l => ∃ path ∈ paths, l = out path) tree tree' :=
    fun l hl => hothers l fun path hpath heq => hl ⟨path, hpath, heq⟩
  obtain ⟨location, bytes, hlookup⟩ := hfile
  have hlocation : Listing.location tree job.base input = location := by
    rw [Listing.location, hlookup]
  have hsame : ¬∃ path ∈ paths, location = out path := by
    rintro ⟨path, hpath, heq⟩
    exact hapart path hpath (hlocation.trans heq).symm
  rw [read_of_agreesOff hagree h.onlyLeaves hlookup hsame, FileTree.read, hlookup]

/-- A run that ended well read each of its listings as it was before the run, and each output holds
the blocks of its own listing; with overwriting, if no two outputs meet and none of them is a
listing. -/
theorem perform_endedWell (job : Job) (run : Run) (hwrite : job.task.write = true)
    (hdone : (job.perform run).1 = .exit exitDone)
    (hapart : job.task.overwrite = true → ∀ paths,
      (Listing.discover run.tree job.base Listing.defaultExtensions job.task.paths).1 = .ok paths →
        job.Apart run.tree paths) :
    ∃ paths,
      (Listing.discover run.tree job.base Listing.defaultExtensions job.task.paths).1 = .ok paths ∧
      job.EndedWell run paths (job.visits run.tree paths run.replies) (job.perform run).2 := by
  obtain ⟨after, hwork⟩ := work_ok_of_perform hdone
  obtain ⟨paths, hpaths, hlistings⟩ := discover_ok_of_work hwork
  have hfiles := Listing.hasFile_of_discover hpaths
  have hstart : (job.discovered run).2.tree = run.tree := rfl
  have houtputs : job.Outputs run.tree paths (job.outputLocation run.tree) := by
    rw [← hstart] at hfiles ⊢
    exact outputs_of_analyzeListings hwrite hfiles (fun h => hapart h paths hpaths) hlistings
  have haftermath := perform_aftermath job run paths _ hwrite hpaths houtputs
  have hhalt := haftermath.done.1 hdone
  have horder := haftermath.all hhalt
  have hothers : ∀ l, (∀ path ∈ paths, l ≠ job.outputLocation run.tree path) →
      (job.perform run).2.tree.node? l = run.tree.node? l := fun l hl =>
    haftermath.others l fun visit hvisit =>
      hl visit.path (horder ▸ List.mem_map_of_mem (f := Visit.path) hvisit)
  have hkept : ∀ path ∈ paths,
      (job.perform run).2.tree.read job.base path = run.tree.read job.base path :=
    fun path hpath => houtputs.read_eq hothers (hfiles path hpath) fun output houtput =>
      houtputs.apart output houtput path hpath
  have hcontent : ∀ visit ∈ job.visits run.tree paths run.replies,
      (job.perform run).2.tree.node? (job.outputLocation run.tree visit.path) =
        some (.file (.bytes (Writer.content (completed visit.trials)))) := by
    intro visit hvisit
    have hnone := hhalt visit hvisit
    have hsome : completed visit.trials ≠ [] :=
      forall_mem_visits (p := fun visit => visit.halt = none → completed visit.trials ≠ [])
        (fun _ _ => completed_visit_ne_nil) _ _ visit hvisit hnone
    rw [haftermath.outputs visit hvisit (by simp [hnone]), Visit.leaves, if_neg hsome]
  -- outputs are files now and were files or nothing before, so every path leads where it led
  have hsame : SameInner run.tree (job.perform run).2.tree := by
    refine SameInner.of_agreesOff (fun l hl => hothers l fun path hpath heq =>
      hl ⟨path, hpath, heq⟩) houtputs.onlyLeaves ?_
    rintro l ⟨path, hpath, rfl⟩
    rw [← horder] at hpath
    obtain ⟨visit, hvisit, rfl⟩ := List.mem_map.1 hpath
    exact .inr ⟨_, hcontent visit hvisit⟩
  refine ⟨paths, hpaths, horder, ?_, hkept, ?_⟩
  · intro earlier path later hsplit
    subst hsplit
    obtain ⟨midway, hearlier, -⟩ := analyzeListings_append_ok hlistings
    -- the earlier listings have changed their own outputs alone, and this input is none of them
    have hagree : AgreesOff (fun _ => False) run.tree (job.discovered run).2.tree :=
      fun _ _ => rfl
    have hleaves := leaves_analyzeListings hwrite hagree (fun _ h => h.elim)
      (fun p hp => hfiles p (List.mem_append_left _ hp)) houtputs.earlier (fun _ _ => id)
      (fun _ _ => id)
    rw [hearlier] at hleaves
    refine ⟨midway, hearlier, houtputs.earlier.read_eq ?_ (hfiles path (by simp)) ?_⟩
    · intro l hl
      refine hleaves.others l fun visit hvisit => hl visit.path ?_
      exact (map_path_visits _ _).subset (List.mem_map_of_mem (f := Visit.path) hvisit)
    · intro output houtput
      exact houtputs.apart output (List.mem_append_left _ houtput) path (by simp)
  · intro visit hvisit
    have hpath : visit.path ∈ paths := horder ▸ List.mem_map_of_mem (f := Visit.path) hvisit
    obtain ⟨output, opened, houtput, hopen⟩ := houtputs.opens visit.path hpath
    rcases haftermath.tries visit hvisit with ⟨-, huntried⟩ | ⟨text, htries⟩
    · exact absurd (hhalt visit hvisit) huntried.halt_ne_none
    · obtain ⟨hblocks, hdone⟩ := htries.all (hhalt visit hvisit)
      refine ⟨⟨text, htries.read, hblocks⟩, fun trial htrial => ?_, output, houtput, ?_⟩
      · exact visits_isCompleted _ _ visit hvisit trial htrial (hdone trial htrial)
      · exact read_opened hsame hopen (hcontent visit hvisit)

/-! ## Runs over two listings -/

/-- A run over `a.c` and a second listing, of one letter each, with a reply for each. -/
def pairRun (second : Text) : Run :=
  ⟨⟨[(["a.c"], .file (.bytes [0x78])), ([second], .file (.bytes [0x79]))]⟩,
    [plainReply, plainReply], [], [], []⟩

/-- Takes both listings as one function each, and may overwrite. -/
def pairJob (second : Text) : Job :=
  ⟨⟨⟨none, none, none⟩, [here "a.c", here second], false, true, true, false⟩, .default, [], 80⟩

/-- Names of listings in these runs, with the names of their outputs. -/
def pairNames : List (Text × Text) := [("a.c", "a.out.c"), ("a.h", "a.out.c"), ("b.c", "b.out.c")]

theorem pairNames_plain : ∀ entry ∈ pairNames,
    (IsOrdinary entry.1 ∧ refusal? (here entry.1) = none) ∧
    (IsOrdinary entry.2 ∧ refusal? (here entry.2) = none) ∧
    Console.IsPlain (here entry.1).toText ∧ Console.IsPlain (here entry.2).toText ∧
    outputPath? (here entry.1) = some (here entry.2) := by decide

theorem pairJob_visit (second : Text) {tree : FileTree} {replies : List Service.Reply}
    {name output letter : Text} (hname : (name, output) ∈ pairNames)
    (hletter : letter ∈ (["x", "y"] : List Text))
    (hfile : tree.node? [name] = some (.file (.bytes (Utf8.bytesOf letter))))
    (hreply : replies.head? = some plainReply) :
    (pairJob second).visit tree replies (here name) =
      ⟨here name, [⟨⟨[], letter⟩, .ok (plainBlock letter)⟩], none⟩ := by
  obtain ⟨hname', -, hplain, hplain', houtput⟩ := pairNames_plain _ hname
  have hletters : ∀ letter ∈ (["x", "y"] : List Text),
      (∀ r ∈ letter, Utf8.IsStable r) ∧ Utf8.isEncodable letter = true := by decide
  obtain ⟨hstable, hencodable⟩ := hletters letter hletter
  have hread : Listing.read tree (pairJob second).base (here name) = .ok letter :=
    Listing.read_of_isStable ((isStraight_here hname' tree).read hfile) hstable hencodable
  have hblocks : (pairJob second).blocks letter = [⟨[], letter⟩] := by
    simp only [List.mem_cons, List.not_mem_nil, or_false] at hletter
    rcases hletter with rfl | rfl <;> rfl
  refine visit_plainReply rfl rfl hread hblocks hencodable hreply hplain ?_
  intro output' houtput'
  obtain rfl := Option.some.inj (houtput.symm.trans houtput')
  exact hplain'

theorem pairJob_opens (second : Text) {tree : FileTree} {name output : Text}
    (hname : (name, output) ∈ pairNames)
    (hopen : tree.node? [output] = none ∨
      ∃ bytes, tree.node? [output] = some (.file (.bytes bytes))) :
    (pairJob second).Opens tree (here name) [output] := by
  obtain ⟨-, houtputName, -, -, houtput⟩ := pairNames_plain _ hname
  exact ⟨here output, _, houtput, (isStraight_here houtputName tree).open_over hopen⟩

theorem pairJob_analyzeListing (second : Text) {name output letter : Text}
    (hname : (name, output) ∈ pairNames) (hletter : letter ∈ (["x", "y"] : List Text))
    (hfile : run.tree.node? [name] = some (.file (.bytes (Utf8.bytesOf letter))))
    (hopen : run.tree.node? [output] = none ∨
      ∃ bytes, run.tree.node? [output] = some (.file (.bytes bytes)))
    (hreply : run.replies.head? = some plainReply) :
    ∃ after, (pairJob second).analyzeListing run (here name) = (.ok (), after) ∧
      Writer.ChangesOnly [output] run.tree after.tree ∧ after.replies = run.replies.tail ∧
      after.tree.node? [output] = some (.file (.bytes (Writer.content [plainBlock letter]))) := by
  obtain ⟨output', opened, houtput, hopened⟩ := pairJob_opens second hname hopen
  have htakes := takes_analyzeListing rfl houtput hopened
  rw [pairJob_visit second hname hletter hfile hreply] at htakes
  refine ⟨_, Prod.ext htakes.result rfl, htakes.changes, ?_, htakes.output (by simp)⟩
  rw [htakes.replies]
  exact List.drop_one

theorem pairRun_location (second : Text) (hsecond : second ∈ (["a.h", "b.c"] : List Text)) :
    (pairRun second).tree.lookup [] (here "a.c") = .ok (["a.c"], .file (.bytes [0x78])) ∧
      (pairRun second).tree.lookup [] (here second) = .ok ([second], .file (.bytes [0x79])) := by
  have hsecond' : (IsOrdinary second ∧ refusal? (here second) = none) ∧
      (pairRun second).tree.node? [second] = some (.file (.bytes [0x79])) := by
    revert second
    decide
  exact ⟨(isStraight_here (by decide) _).lookup rfl (by simp),
    (isStraight_here hsecond'.1 _).lookup hsecond'.2 (by simp)⟩

theorem pairJob_discover {second : Text} (hsecond : second ∈ (["a.h", "b.c"] : List Text)) :
    (Listing.discover (pairRun second).tree (pairJob second).base Listing.defaultExtensions
      (pairJob second).task.paths).1 = .ok [here "a.c", here second] := by
  obtain ⟨hfirst, hother⟩ := pairRun_location second hsecond
  have hnames : ∀ second ∈ (["a.h", "b.c"] : List Text), "a.c" ≠ second := by decide
  have hne := hnames second hsecond
  have hdistinct : ([here "a.c", here second].map
      (Listing.location (pairRun second).tree [])).Nodup := by
    simp [Listing.location, hfirst, hother, hne]
  exact Listing.discover_of_files
    (List.forall_mem_cons.2 ⟨⟨_, _, hfirst⟩, List.forall_mem_singleton.2 ⟨_, _, hother⟩⟩) hdistinct

theorem pairJob_perform (second output : Text)
    (h : (second, output) ∈ ([("a.h", "a.out.c"), ("b.c", "b.out.c")] : List (Text × Text))) :
    ((pairJob second).perform (pairRun second)).1 = .exit exitDone ∧
      ((pairJob second).perform (pairRun second)).2.tree.node? [output] =
        some (.file (.bytes (Writer.content [plainBlock "y"]))) := by
  have hnames : ∀ entry ∈ ([("a.h", "a.out.c"), ("b.c", "b.out.c")] : List (Text × Text)),
      entry.1 ∈ (["a.h", "b.c"] : List Text) ∧
      entry ∈ pairNames ∧ entry.1 ≠ "a.out.c" ∧
      (pairRun entry.1).tree.node? [entry.1] = some (.file (.bytes [0x79])) ∧
      (pairRun entry.1).tree.node? ["a.out.c"] = none ∧
      (pairRun entry.1).tree.node? [entry.2] = none := by decide
  obtain ⟨hsecond, hentry, hne, hfile, hfree, hfree'⟩ := hnames _ h
  have hletter : ("x" : Text) ∈ (["x", "y"] : List Text) := List.mem_cons_self
  have hletter' : ("y" : Text) ∈ (["x", "y"] : List Text) := by decide
  have hfirstFile : ((pairJob second).discovered (pairRun second)).2.tree.node? ["a.c"] =
      some (.file (.bytes [0x78])) := rfl
  have hfirstEntry : (("a.c", "a.out.c") : Text × Text) ∈ pairNames := List.mem_cons_self
  obtain ⟨midway, hfirst, hchanges, hreplies, houtput⟩ :=
    pairJob_analyzeListing second hfirstEntry hletter hfirstFile (.inl hfree) rfl
  have hfile' : midway.tree.node? [second] = some (.file (.bytes [0x79])) := by
    rw [hchanges [second] (by simpa using hne)]
    exact hfile
  -- the second output is free, or it is the file that the first listing has left
  have hopen : midway.tree.node? [output] = none ∨
      ∃ bytes, midway.tree.node? [output] = some (.file (.bytes bytes)) := by
    by_cases hsame : output = "a.out.c"
    · exact .inr ⟨_, hsame ▸ houtput⟩
    · left
      rw [hchanges [output] (by simpa using hsame)]
      exact hfree'
  obtain ⟨after, hlast, -, -, hdone⟩ :=
    pairJob_analyzeListing second hentry hletter' hfile' hopen
      (by rw [hreplies]; rfl)
  have hwork : (pairJob second).work (pairRun second) = (.ok (), after) := by
    unfold discovered at hfirst
    unfold work discovered
    dsimp only at hfirst ⊢
    rw [pairJob_discover hsecond]
    dsimp only
    rw [analyzeListings, hfirst]
    dsimp only
    rw [analyzeListings, hlast]
    rfl
  refine ⟨?_, ?_⟩
  · rw [perform, hwork]
    exact conclude_ok _ after
  · rw [perform_tree, hwork]
    exact hdone

theorem pairJob_apart : (pairJob "b.c").Apart (pairRun "b.c").tree [here "a.c", here "b.c"] := by
  have hfree : (pairRun "b.c").tree.node? ["a.out.c"] = none ∧
      (pairRun "b.c").tree.node? ["b.out.c"] = none := by decide
  have houtputs : (pairJob "b.c").outputLocation (pairRun "b.c").tree (here "a.c") = ["a.out.c"] ∧
      (pairJob "b.c").outputLocation (pairRun "b.c").tree (here "b.c") = ["b.out.c"] :=
    ⟨(pairJob_opens "b.c" (by decide) (.inl hfree.1)).location_eq.symm,
      (pairJob_opens "b.c" (by decide) (.inl hfree.2)).location_eq.symm⟩
  obtain ⟨hfirst, hother⟩ := pairRun_location "b.c" (by decide)
  have hinputs : Listing.location (pairRun "b.c").tree [] (here "a.c") = ["a.c"] ∧
      Listing.location (pairRun "b.c").tree [] (here "b.c") = ["b.c"] := by
    rw [Listing.location, Listing.location, hfirst, hother]
    exact ⟨rfl, rfl⟩
  constructor
  · rw [List.map_cons, List.map_cons, List.map_nil, houtputs.1, houtputs.2]
    decide
  · simp only [List.forall_mem_cons]
    show (_ ≠ Listing.location (pairRun "b.c").tree [] _ ∧
      _ ≠ Listing.location (pairRun "b.c").tree [] _ ∧ _) ∧
      (_ ≠ Listing.location (pairRun "b.c").tree [] _ ∧
      _ ≠ Listing.location (pairRun "b.c").tree [] _ ∧ _) ∧ _
    rw [houtputs.1, houtputs.2, hinputs.1, hinputs.2]
    exact ⟨⟨by decide, by decide, by simp⟩, ⟨by decide, by decide, by simp⟩, by simp⟩

/-- Two listings with outputs of their own. -/
theorem perform_endedWell_apart :
    (pairJob "b.c").task.write = true ∧
      ((pairJob "b.c").perform (pairRun "b.c")).1 = .exit exitDone ∧
      ((pairJob "b.c").task.overwrite = true → ∀ paths,
        (Listing.discover (pairRun "b.c").tree (pairJob "b.c").base Listing.defaultExtensions
          (pairJob "b.c").task.paths).1 = .ok paths →
          (pairJob "b.c").Apart (pairRun "b.c").tree paths) ∧
      ∃ paths,
        (Listing.discover (pairRun "b.c").tree (pairJob "b.c").base Listing.defaultExtensions
          (pairJob "b.c").task.paths).1 = .ok paths ∧
        (pairJob "b.c").EndedWell (pairRun "b.c") paths
          ((pairJob "b.c").visits (pairRun "b.c").tree paths (pairRun "b.c").replies)
          ((pairJob "b.c").perform (pairRun "b.c")).2 := by
  have hdone := (pairJob_perform "b.c" "b.out.c" (by decide)).1
  have hapart : (pairJob "b.c").task.overwrite = true → ∀ paths,
      (Listing.discover (pairRun "b.c").tree (pairJob "b.c").base Listing.defaultExtensions
        (pairJob "b.c").task.paths).1 = .ok paths →
        (pairJob "b.c").Apart (pairRun "b.c").tree paths := by
    intro _ paths hpaths
    rw [pairJob_discover (by decide)] at hpaths
    injection hpaths with hpaths
    exact hpaths ▸ pairJob_apart
  exact ⟨rfl, hdone, hapart, perform_endedWell _ _ rfl hdone hapart⟩

/-- Two listings with the same output, of which only the second is left. -/
theorem perform_outputs_meet :
    (pairJob "a.h").task.write = true ∧
      ((pairJob "a.h").perform (pairRun "a.h")).1 = .exit exitDone ∧
      ((pairJob "a.h").perform (pairRun "a.h")).2.tree.node? ["a.out.c"] =
        some (.file (.bytes (Writer.content [plainBlock "y"]))) ∧
      ¬∃ paths,
        (Listing.discover (pairRun "a.h").tree (pairJob "a.h").base Listing.defaultExtensions
          (pairJob "a.h").task.paths).1 = .ok paths ∧
        (pairJob "a.h").EndedWell (pairRun "a.h") paths
          ((pairJob "a.h").visits (pairRun "a.h").tree paths (pairRun "a.h").replies)
          ((pairJob "a.h").perform (pairRun "a.h")).2 := by
  obtain ⟨hdone, hfile⟩ := pairJob_perform "a.h" "a.out.c" (by decide)
  refine ⟨rfl, hdone, hfile, ?_⟩
  rintro ⟨paths, hpaths, hended⟩
  rw [pairJob_discover (by decide)] at hpaths
  injection hpaths with hpaths
  subst hpaths
  have hvisit : (pairJob "a.h").visit (pairRun "a.h").tree (pairRun "a.h").replies (here "a.c") =
      ⟨here "a.c", [⟨⟨[], "x"⟩, .ok (plainBlock "x")⟩], none⟩ :=
    pairJob_visit "a.h" List.mem_cons_self List.mem_cons_self rfl rfl
  have hmem : (⟨here "a.c", [⟨⟨[], "x"⟩, .ok (plainBlock "x")⟩], none⟩ : Visit) ∈
      (pairJob "a.h").visits (pairRun "a.h").tree [here "a.c", here "a.h"]
        (pairRun "a.h").replies := by
    rw [visits, hvisit]
    exact List.mem_cons_self
  -- the first output should hold the first letter, but it is the file with the second one
  obtain ⟨output, houtput, hread⟩ := (hended.outputs _ hmem).output
  obtain rfl : here "a.out.c" = output := Option.some.inj houtput
  have hread' : ((pairJob "a.h").perform (pairRun "a.h")).2.tree.read [] (here "a.out.c") =
      .ok (Writer.content [plainBlock "y"]) := (isStraight_here (by decide) _).read hfile
  have hsame : Writer.content [plainBlock "y"] = Writer.content [plainBlock "x"] :=
    Except.ok.inj (hread'.symm.trans hread)
  have hend (letter : Text) : Writer.content [plainBlock letter] =
      Utf8.bytesOf (Comment.standard "f" "d") ++ Utf8.bytesOf (letter ++ []) :=
    Utf8.bytesOf_append _ _
  rw [hend, hend] at hsame
  exact absurd (List.append_cancel_left hsame) (by decide)

end Command.Job

end Nomenclator

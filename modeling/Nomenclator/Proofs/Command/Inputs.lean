import Nomenclator.Proofs.Command.Aftermath
import Nomenclator.Proofs.Command.Invariant
import Nomenclator.Proofs.Command.Operands
import Nomenclator.Proofs.Listing.Unchanged
import Nomenclator.Proofs.Settings.Combination

/-!
# What runs leave to find

The files that a run writes are result files beside its inputs. Another search through the same
directories finds the inputs again and nothing else, wherever the run has ended, unless it comes to
a result file by a path that is too long: then it breaks off.
-/

namespace Nomenclator

open FileTree Listing

namespace Writer

theorem keeps_writesOnly {before : FileTree} {base : Location} {inputs : List Path}
    {path input output : Path} (hlinks : before.HasNoLinks) (hinput : input ∈ inputs)
    (hbelow : IsListingBelow before base path input) (houtput : outputPath? input = some output)
    (overwrite : Bool) :
    Keeps (WritesOnly (IsResultBeside before base inputs) before)
      (fun l => IsResultBeside before base inputs l ∧
        (before.node? l = none ∨ ∃ bytes, before.node? l = some (.file (.bytes bytes))))
      base output overwrite where
  opens := by
    intro tree l opened htree hopen
    have hl := isResultBeside_of_opened hlinks htree.sameInner hinput hbelow houtput hopen
    obtain ⟨hopened, hleaf⟩ := htree.opened hopen hl
    exact ⟨hopened, hl, hleaf⟩
  writes := fun htree ⟨hl, hleaf⟩ => htree.writeAt hl hleaf

end Writer

namespace Command

/-- A search finds the same after as before, and what it finds is as it was. -/
structure FindsSame (before after : FileTree) (base : Location) (paths : List Path) : Prop where
  same : (discover after base defaultExtensions paths).1 =
    (discover before base defaultExtensions paths).1
  untouched : ∀ found, (discover after base defaultExtensions paths).1 = .ok found →
    ∀ file ∈ found, ∃ location content, before.lookup base file = .ok (location, .file content) ∧
      after.lookup base file = .ok (location, .file content)

/-- No path to something new below an argument is too long. -/
def NewPathsFit (before after : FileTree) (base : Location) (paths : List Path) : Prop :=
  ∀ path ∈ paths, ∀ file, IsNewBelow before after base path file →
    refusal? file ≠ some .nameTooLong

section

variable {before after : FileTree} {base : Location} {paths inputs : List Path}

theorem newPathsFit_refl (tree : FileTree) (base : Location) (paths : List Path) :
    NewPathsFit tree tree base paths := by
  rintro path - file ⟨directory, names, -, hbelow, hnone, -⟩
  have hsome := hbelow.isSome
  simp [hnone] at hsome

theorem newPathsFit_of_hasRoom
    (hwrites : WritesOnly (IsResultBeside before base inputs) before after)
    (hroom : ∀ path ∈ paths, HasRoom before base path) : NewPathsFit before after base paths :=
  fun path hpath _ hnew => refusal?_of_hasRoom hwrites (hroom path hpath) hnew

theorem findsSame_of_newPathsFit (hlinks : before.HasNoLinks)
    (hdirectories : ∀ path ∈ paths, before.HasDirectory base path)
    (hinputs : (discover before base defaultExtensions paths).1 = .ok inputs)
    (hwrites : WritesOnly (IsResultBeside before base inputs) before after)
    (hfit : NewPathsFit before after base paths) : FindsSame before after base paths := by
  have hafter := discover_of_writesOnly hlinks hwrites hdirectories hfit hinputs
  refine ⟨hafter.trans hinputs.symm, fun found hfound file hfile => ?_⟩
  obtain rfl : inputs = found := Except.ok.inj (hafter.symm.trans hfound)
  obtain ⟨path, -, hbelow⟩ := exists_listingBelow_of_discover hdirectories hinputs file hfile
  exact lookup_listing hlinks hwrites hbelow

theorem breaksOff_of_not_newPathsFit
    (hdirectories : ∀ path ∈ paths, before.HasDirectory base path)
    (hwrites : WritesOnly (IsResultBeside before base inputs) before after)
    (hfit : ¬NewPathsFit before after base paths) :
    ∃ escape, IsLimit escape ∧
      (discover after base defaultExtensions paths).1 = .error (.escaped escape) := by
  have husable : ∀ path ∈ paths, after.IsUsable base path := by
    intro path hpath
    obtain ⟨directory, hdirectory⟩ := hdirectories path hpath
    exact .inl ⟨directory, hwrites.sameInner.lookup_directory hdirectory⟩
  unfold NewPathsFit at hfit
  push Not at hfit
  obtain ⟨path, hpath, file, hnew, hlong⟩ := hfit
  exact discover_of_comesToLimit <|
    (comesToLimit_iff husable).2 ⟨path, hpath, isObstructed_of_isNewBelow hwrites hnew hlong⟩

end

variable {surroundings : Surroundings} {given : List Text} {verbose : Bool} {task : Task}

theorem writesOnly_run {inputs : List Path}
    (hgiven : readInvocation surroundings.tree surroundings.base given =
      .ok ⟨verbose, .analyze task⟩)
    (hlinks : surroundings.tree.HasNoLinks)
    (hdirectories : ∀ path ∈ task.paths, surroundings.tree.HasDirectory surroundings.base path)
    (hinputs : (discover surroundings.tree surroundings.base defaultExtensions task.paths).1 =
      .ok inputs) :
    WritesOnly (IsResultBeside surroundings.tree surroundings.base inputs) surroundings.tree
      (run surroundings given).tree := by
  apply holds_run hgiven _ (WritesOnly.refl _ _)
  intro _ inputs' hinputs' input hinput output houtput
  obtain rfl : inputs = inputs' := Except.ok.inj (hinputs.symm.trans hinputs')
  obtain ⟨path, -, hbelow⟩ := exists_listingBelow_of_discover hdirectories hinputs input hinput
  exact ⟨_, Writer.keeps_writesOnly hlinks hinput hbelow houtput _⟩

theorem tree_run_of_discover_error {halt : Halt}
    (hgiven : readInvocation surroundings.tree surroundings.base given =
      .ok ⟨verbose, .analyze task⟩)
    (hhalt : (discover surroundings.tree surroundings.base defaultExtensions task.paths).1 =
      .error halt) :
    (run surroundings given).tree = surroundings.tree := by
  refine @holds_run _ _ _ _ (· = surroundings.tree) hgiven (fun _ inputs hinputs => ?_) rfl
  rw [hhalt] at hinputs
  simp at hinputs

/-- Either nothing that a run has made is in the way of another search, and that finds the same, or
it breaks off there. -/
theorem findsSame_or_breaksOff
    (hgiven : readInvocation surroundings.tree surroundings.base given =
      .ok ⟨verbose, .analyze task⟩)
    (hlinks : surroundings.tree.HasNoLinks)
    (hdirectories : ∀ path ∈ task.paths, surroundings.tree.HasDirectory surroundings.base path) :
    NewPathsFit surroundings.tree (run surroundings given).tree surroundings.base task.paths ∧
        FindsSame surroundings.tree (run surroundings given).tree surroundings.base task.paths ∨
      ¬NewPathsFit surroundings.tree (run surroundings given).tree surroundings.base task.paths ∧
        (∃ inputs, (discover surroundings.tree surroundings.base defaultExtensions
          task.paths).1 = .ok inputs) ∧
        ∃ escape, IsLimit escape ∧ (discover (run surroundings given).tree surroundings.base
          defaultExtensions task.paths).1 = .error (.escaped escape) := by
  cases hinputs : (discover surroundings.tree surroundings.base defaultExtensions task.paths).1 with
  | error halt =>
    -- a run that finds no inputs writes nothing
    rw [tree_run_of_discover_error hgiven hinputs]
    refine .inl ⟨newPathsFit_refl _ _ _, rfl, fun found hfound => ?_⟩
    rw [hinputs] at hfound
    simp at hfound
  | ok inputs =>
    have hwrites := writesOnly_run hgiven hlinks hdirectories hinputs
    by_cases hfit : NewPathsFit surroundings.tree (run surroundings given).tree surroundings.base
        task.paths
    · exact .inl ⟨hfit, findsSame_of_newPathsFit hlinks hdirectories hinputs hwrites hfit⟩
    · exact .inr ⟨hfit, ⟨inputs, rfl⟩, breaksOff_of_not_newPathsFit hdirectories hwrites hfit⟩

theorem not_findsSame_of_error {before after : FileTree} {base : Location}
    {paths inputs : List Path} {halt : Halt}
    (hbefore : (discover before base defaultExtensions paths).1 = .ok inputs)
    (hafter : (discover after base defaultExtensions paths).1 = .error halt) :
    ¬FindsSame before after base paths := by
  intro hsame
  have hequal := hsame.same
  simp [hbefore, hafter] at hequal

/-! ## Runs that save something -/

/-- A run with the default settings saves what its first input is answered with. -/
theorem node?_run_of_plainReply {input : Path} {rest : List Path} {body : Text}
    {out : Path → Location}
    (hgiven : readInvocation surroundings.tree surroundings.base given =
      .ok ⟨verbose, .analyze task⟩)
    (hsettings : (Settings.resolve task.options surroundings.environment surroundings.tree
      surroundings.base surroundings.root surroundings.home).result = .ok .default)
    (hwrite : task.write = true) (hcode : task.showCode = false)
    (hinputs : (discover surroundings.tree surroundings.base defaultExtensions task.paths).1 =
      .ok (input :: rest))
    (houtputs : Job.Outputs ⟨task, .default, surroundings.base, surroundings.width⟩
      surroundings.tree (input :: rest) out)
    (hread : Listing.read surroundings.tree surroundings.base input = .ok body)
    (hblocks : Job.blocks ⟨task, .default, surroundings.base, surroundings.width⟩ body =
      [⟨[], body⟩])
    (hbody : Utf8.isEncodable body = true)
    (hreply : surroundings.replies.head? = some Job.plainReply)
    (hinput : Console.IsPlain input.toText)
    (houtput : ∀ output, outputPath? input = some output → Console.IsPlain output.toText) :
    (run surroundings given).tree.node? (out input) =
      some (.file (.bytes (Writer.content [Job.plainBlock body]))) := by
  obtain ⟨start, htree, hreplies, hrun⟩ := exists_run_perform hgiven hsettings
  rw [← htree] at hinputs houtputs hread
  have hleaves := Job.leaves_work hwrite hinputs houtputs
  have hvisit : Job.visit ⟨task, .default, surroundings.base, surroundings.width⟩ start.tree
      start.replies input = ⟨input, [⟨⟨[], body⟩, .ok (Job.plainBlock body)⟩], none⟩ :=
    Job.visit_plainReply rfl hcode hread hblocks hbody (hreplies ▸ hreply) hinput houtput
  rw [hrun, Job.perform_tree]
  refine hleaves.outputs ⟨input, [⟨⟨[], body⟩, .ok (Job.plainBlock body)⟩], none⟩ ?_ (by simp)
  rw [Job.visits, hvisit]
  exact List.mem_cons_self

/-- Without a file that could set anything there are only the defaults. -/
theorem resolve_default_atTop {tree : FileTree}
    (h : ∀ name ∈ ([".env", ".oneiromancer.env", Project.fileName] : List Text),
      tree.node? [name] = none) :
    (Settings.resolve ⟨none, none, none⟩ [] tree [] ⟨.absolute, []⟩ ⟨.absolute, []⟩).result =
      .ok .default := by
  have hmissing : ∀ name ∈ ([".env", ".oneiromancer.env", Project.fileName] : List Text),
      tree.pathExists [] ⟨.absolute, [name]⟩ = .ok false := by
    have hnames : ∀ name ∈ ([".env", ".oneiromancer.env", Project.fileName] : List Text),
        IsOrdinary name ∧ refusal? ⟨.absolute, [name]⟩ = none := by decide
    exact fun name hname =>
      (isStraight_of_names rfl (hnames name hname) tree []).pathExists (h name hname)
  simp only [List.forall_mem_cons] at hmissing
  obtain ⟨hproject, huser, hsection, -⟩ := hmissing
  refine Settings.resolve_default ?_ hsection rfl rfl
  simp only [Environment.filePaths, List.map_cons, List.map_nil, List.singleton_append,
    List.forall_mem_cons]
  exact ⟨hproject, huser, by simp⟩

/-! ## What another search finds -/

/-- Whatever comes of a run of the analyze command on directories of a tree without links, a search
through the same directories finds the same inputs as before the run, and none of them was made or
changed by it, just when the paths to the files that it made are not too long. That is so wherever
there was room for another name; if one of them is too long, the search breaks off. Before the run
it has found something, unless it came to a limit then. -/
theorem run_findsSame_iff (surroundings : Surroundings) (given : List Text) (verbose : Bool)
    (task : Task)
    (hgiven : readInvocation surroundings.tree surroundings.base given =
      .ok ⟨verbose, .analyze task⟩)
    (hlinks : surroundings.tree.HasNoLinks)
    (hdirectories : ∀ path ∈ task.paths, surroundings.tree.HasDirectory surroundings.base path) :
    (FindsSame surroundings.tree (run surroundings given).tree surroundings.base task.paths ↔
        NewPathsFit surroundings.tree (run surroundings given).tree surroundings.base task.paths) ∧
      ((∀ path ∈ task.paths, HasRoom surroundings.tree surroundings.base path) →
        FindsSame surroundings.tree (run surroundings given).tree surroundings.base
          task.paths) ∧
      (¬FindsSame surroundings.tree (run surroundings given).tree surroundings.base task.paths →
        ∃ escape, IsLimit escape ∧ (discover (run surroundings given).tree surroundings.base
          defaultExtensions task.paths).1 = .error (.escaped escape)) ∧
      (¬ComesToLimit surroundings.tree surroundings.base task.paths →
        ∃ inputs, (discover surroundings.tree surroundings.base defaultExtensions
          task.paths).1 = .ok inputs) := by
  refine ⟨?_, fun hroom => ?_, ?_, fun hfree => ?_⟩
  · rcases findsSame_or_breaksOff hgiven hlinks hdirectories with
      ⟨hfit, hsame⟩ | ⟨hfit, ⟨inputs, hinputs⟩, escape, -, hescape⟩
    · exact iff_of_true hsame hfit
    · exact iff_of_false (not_findsSame_of_error hinputs hescape) hfit
  · rcases findsSame_or_breaksOff hgiven hlinks hdirectories with
      ⟨-, hsame⟩ | ⟨hfit, ⟨inputs, hinputs⟩, -⟩
    · exact hsame
    · have hwrites := writesOnly_run hgiven hlinks hdirectories hinputs
      exact absurd (newPathsFit_of_hasRoom hwrites hroom) hfit
  · intro hnot
    rcases findsSame_or_breaksOff hgiven hlinks hdirectories with ⟨-, hsame⟩ | ⟨-, -, hescape⟩
    · exact absurd hsame hnot
    · exact hescape
  · obtain ⟨parts, -, hfound⟩ :=
      exists_parts_of_usable hfree fun path hpath => .inl (hdirectories path hpath)
    exact ⟨_, hfound⟩

/-- A directory with a hidden listing, another one and a result file, and replies for both. -/
def dottedSurroundings : Surroundings where
  tree := ⟨[(["d"], .directory), (["d", ".c"], .file (.bytes [0x79])),
    (["d", "a.c"], .file (.bytes [0x78])), (["d", "b.out.c"], .file (.bytes [0x7A]))]⟩
  base := []
  root := ⟨.absolute, []⟩
  home := ⟨.absolute, []⟩
  environment := []
  width := 80
  replies := [Job.plainReply, Job.plainReply]

def dottedTask : Task :=
  ⟨⟨none, none, none⟩, [here "d"], true, true, false, false⟩

def inDotted (name : Text) : Path := ⟨.relative, ["d", name]⟩

def dottedOut (path : Path) : Location :=
  if path = inDotted ".c" then ["d", ".c.out.c"] else ["d", "a.out.c"]

theorem dotted_straight :
    ∀ name ∈ ([".c", "a.c", "b.out.c", ".c.out.c", "a.out.c"] : List Text),
      dottedSurroundings.tree.IsStraight [] (inDotted name) ["d", name] := by decide

theorem dotted_directory :
    dottedSurroundings.tree.lookup [] (here "d") = .ok (["d"], .directory) :=
  (isStraight_here (by decide) _).lookup rfl (by simp)

theorem dotted_lookups :
    dottedSurroundings.tree.lookup [] (inDotted ".c") =
        .ok (["d", ".c"], .file (.bytes [0x79])) ∧
      dottedSurroundings.tree.lookup [] (inDotted "a.c") =
        .ok (["d", "a.c"], .file (.bytes [0x78])) ∧
      dottedSurroundings.tree.lookup [] (inDotted "b.out.c") =
        .ok (["d", "b.out.c"], .file (.bytes [0x7A])) := by
  have hstraight := dotted_straight
  simp only [List.forall_mem_cons] at hstraight
  exact ⟨hstraight.1.lookup rfl (by simp), hstraight.2.1.lookup rfl (by simp),
    hstraight.2.2.1.lookup rfl (by simp)⟩

theorem dotted_inputs : (discover dottedSurroundings.tree [] defaultExtensions [here "d"]).1 =
    .ok [inDotted ".c", inDotted "a.c"] := by
  obtain ⟨hhidden, hother, hresult⟩ := dotted_lookups
  have hbelow : directoriesBelow dottedSurroundings.tree ["d"] = [] ∧
      below dottedSurroundings.tree ["d"] =
        ([[".c"], ["a.c"], ["b.out.c"]] : List (List Text)) := by
    decide
  have hmatch : ∀ name ∈ ([".c", "a.c", "b.out.c"] : List Text), isMatch ".c" name = true := by
    simp only [isMatch_iff]
    decide
  have hmatches : matchesBelow dottedSurroundings.tree (here "d") ["d"] ".c" =
      [inDotted ".c", inDotted "a.c", inDotted "b.out.c"] := by
    simp only [List.forall_mem_cons] at hmatch
    simp [matchesBelow, hbelow.2, hmatch, here, inDotted, Path.descend]
  have hresults : isResultFile (inDotted ".c") = false ∧ isResultFile (inDotted "a.c") = false ∧
      isResultFile (inDotted "b.out.c") = true := by decide
  have hlistings : listingsBelow dottedSurroundings.tree [] (here "d") ["d"] ".c" =
      .ok [inDotted ".c", inDotted "a.c"] := by
    have hname : isBadExtension ".c" = false := by decide
    simp [listingsBelow, hname, hbelow.1, hmatches, enter, filesAmong, FileTree.isFile, askWhether,
      hhidden, hother, hresult, hresults, Except.map]
  have hsorted : [inDotted ".c", inDotted "a.c"].mergeSort Path.le =
      [inDotted ".c", inDotted "a.c"] :=
    List.mergeSort_of_pairwise (by decide)
  have hne : ("a.c" : Text) ≠ ".c" := by decide
  simp [discover, expandAll, expand, dotted_directory, defaultExtensions, listingsFor, hlistings,
    hsorted, Except.map, dropRepeated, location, hhidden, hother, hne]

theorem dotted_outputs :
    Job.Outputs ⟨dottedTask, .default, [], 80⟩ dottedSurroundings.tree
      [inDotted ".c", inDotted "a.c"] dottedOut where
  opens := by
    have hstraight := dotted_straight
    simp only [List.forall_mem_cons] at hstraight ⊢
    exact ⟨⟨_, _, by decide, hstraight.2.2.2.1.open_free rfl false⟩,
      ⟨_, _, by decide, hstraight.2.2.2.2.1.open_free rfl false⟩, by simp⟩
  distinct := by decide
  apart := by
    obtain ⟨hhidden, hother, -⟩ := dotted_lookups
    have hlocation : ∀ input ∈ [inDotted ".c", inDotted "a.c"],
        location dottedSurroundings.tree [] input ∈
          ([["d", ".c"], ["d", "a.c"]] : List Location) := by
      simp [location, hhidden, hother]
    have hne : ∀ path ∈ [inDotted ".c", inDotted "a.c"],
        ∀ l ∈ ([["d", ".c"], ["d", "a.c"]] : List Location), dottedOut path ≠ l := by decide
    exact fun path hpath input hinput => hne path hpath _ (hlocation input hinput)

theorem dotted_given :
    readInvocation dottedSurroundings.tree dottedSurroundings.base ["analyze", "d"] =
      .ok ⟨false, .analyze dottedTask⟩ := by
  have hoperand : (here "d").IsOperand := ⟨rfl, by decide, by decide, by decide⟩
  exact readInvocation_directories (by simp) (List.forall_mem_singleton.2 hoperand)
    (List.forall_mem_singleton.2 ⟨_, dotted_directory⟩)

theorem dotted_saved :
    (run dottedSurroundings ["analyze", "d"]).tree.node? ["d", ".c.out.c"] =
      some (.file (.bytes (Writer.content [Job.plainBlock "y"]))) := by
  have hletter : (∀ r ∈ ("y" : Text), Utf8.IsStable r) ∧ Utf8.isEncodable "y" = true := by decide
  have hread : Listing.read dottedSurroundings.tree [] (inDotted ".c") = .ok "y" := by
    refine read_of_isStable ?_ hletter.1 hletter.2
    rw [FileTree.read, dotted_lookups.1]
    rfl
  have hblocks : Listing.blocks "y" = [⟨[], "y"⟩] := by decide +kernel
  have hplain : Console.IsPlain (inDotted ".c").toText ∧
      Console.IsPlain (inDotted ".c.out.c").toText := by decide
  refine node?_run_of_plainReply dotted_given (resolve_default_atTop (by decide)) rfl rfl
    dotted_inputs dotted_outputs hread hblocks hletter.2 rfl hplain.1 fun output houtput => ?_
  obtain rfl : inDotted ".c.out.c" = output := Option.some.inj houtput
  exact hplain.2

theorem dotted_hasRoom :
    ∀ path ∈ dottedTask.paths, HasRoom dottedSurroundings.tree dottedSurroundings.base path := by
  intro path hpath directory names hdirectory hnames
  obtain rfl := List.mem_singleton.1 hpath
  obtain rfl : directory = (["d"] : List Text) :=
    (Prod.mk.inj (Except.ok.inj (hdirectory.symm.trans dotted_directory))).1
  obtain rfl : names = [] := by
    rcases hnames with hnone | hnode
    · exact hnone
    · simpa [dottedSurroundings] using mem_nodes_of_node? hnode
  decide

/-- The run makes a result file for the hidden listing, and it is not found. -/
theorem run_findsSame_iff_dotted :
    readInvocation dottedSurroundings.tree dottedSurroundings.base ["analyze", "d"] =
        .ok ⟨false, .analyze dottedTask⟩ ∧
      dottedSurroundings.tree.HasNoLinks ∧
      (∀ path ∈ dottedTask.paths,
        dottedSurroundings.tree.HasDirectory dottedSurroundings.base path) ∧
      dottedSurroundings.tree.node? ["d", ".c.out.c"] = none ∧
      (run dottedSurroundings ["analyze", "d"]).tree.node? ["d", ".c.out.c"] =
        some (.file (.bytes (Writer.content [Job.plainBlock "y"]))) ∧
      FindsSame dottedSurroundings.tree (run dottedSurroundings ["analyze", "d"]).tree []
        dottedTask.paths ∧
      (discover dottedSurroundings.tree [] defaultExtensions dottedTask.paths).1 =
        .ok [inDotted ".c", inDotted "a.c"] := by
  have hlinks : dottedSurroundings.tree.HasNoLinks :=
    hasNoLinks_of_nodes (by simp [dottedSurroundings])
  have hdirectories : ∀ path ∈ dottedTask.paths,
      dottedSurroundings.tree.HasDirectory dottedSurroundings.base path :=
    List.forall_mem_singleton.2 ⟨["d"], dotted_directory⟩
  obtain ⟨-, hsame, -⟩ := run_findsSame_iff _ _ _ _ dotted_given hlinks hdirectories
  exact ⟨dotted_given, hlinks, hdirectories, rfl, dotted_saved, hsame dotted_hasRoom,
    dotted_inputs⟩

/-! ### A way that is nearly too long -/

def roundName : Text := List.replicate 191 ⟨0x6E⟩

/-- Some names behind so many rounds into the directory and out of it again. -/
def around (rounds : Nat) (names : List Text) : Path :=
  ⟨.relative, (List.replicate rounds [roundName, ".."]).flatten ++ names⟩

/-- The directory with one listing, and a reply. -/
def roundSurroundings : Surroundings where
  tree := ⟨[([roundName], .directory), ([roundName, "x.c"], .file (.bytes [0x78]))]⟩
  base := []
  root := ⟨.absolute, []⟩
  home := ⟨.absolute, []⟩
  environment := []
  width := 80
  replies := [Job.plainReply]

/-- The directory itself, and the way to it that leaves room for four characters. -/
def roundPaths : List Path := [around 0 [roundName], around 20 [roundName]]

def roundTask : Task := ⟨⟨none, none, none⟩, roundPaths, true, true, false, false⟩

def roundGiven : List Text := "analyze" :: roundPaths.map Path.toText

theorem roundName_plain : IsOrdinary roundName ∧ roundName ≠ [] ∧ Path.slash ∉ roundName ∧
    isSystemText roundName = true ∧ systemLength roundName = 191 := by decide +kernel

/-- What holds of the names in a round and of those behind the rounds holds of all. -/
theorem forall_mem_around {P : Text → Prop} {rounds : Nat} {names : List Text}
    (hround : P roundName) (hdots : P "..") (h : ∀ name ∈ names, P name) :
    ∀ name ∈ (around rounds names).names, P name := by
  intro name hname
  rcases List.mem_append.1 hname with hname | hname
  · obtain ⟨round, hmem, hname⟩ := List.mem_flatten.1 hname
    obtain rfl := List.eq_of_mem_replicate hmem
    rcases List.mem_pair.1 hname with rfl | rfl
    · exact hround
    · exact hdots
  · exact h name hname

theorem around_names_ne_nil {rounds : Nat} {names : List Text} (hsome : names ≠ []) :
    (around rounds names).names ≠ [] := by
  simp [around, hsome]

theorem systemLength_around (rounds : Nat) {names : List Text} (hsome : names ≠ []) :
    systemLength (around rounds names).toText =
      195 * rounds + systemLength (Text.join [Path.slash] names) := by
  have htext (rounds : Nat) : (around rounds names).toText =
      Text.join [Path.slash] (around rounds names).names := by
    rw [Path.toText, if_neg fun hdot => around_names_ne_nil hsome hdot.2]
    rfl
  rw [htext]
  induction rounds with
  | zero =>
    rw [Nat.mul_zero, Nat.zero_add]
    rfl
  | succ rounds ih =>
    -- one more round is the name, two dots, and a slash behind each of them
    have hnames : (around (rounds + 1) names).names =
        roundName :: ".." :: (around rounds names).names := rfl
    have hmarks : systemLength [Path.slash] = 1 ∧ systemLength ".." = 2 := by decide
    rw [hnames, Text.join_cons _ _ (by simp), Text.join_cons _ _ (around_names_ne_nil hsome)]
    simp only [systemLength_append, roundName_plain.2.2.2.2, hmarks, ih]
    omega

theorem refusal?_around (rounds : Nat) {names : List Text} (hsome : names ≠ [])
    (hsystem : ∀ name ∈ names, isSystemText name = true) :
    refusal? (around rounds names) =
      if pathLimit < 195 * rounds + systemLength (Text.join [Path.slash] names) then
        some .nameTooLong
      else none := by
  rw [← systemLength_around rounds hsome]
  exact refusal?_of_isSystemText
    (forall_mem_around roundName_plain.2.2.2.1 (by decide) hsystem)

theorem refusal?_around_of_le {rounds : Nat} {names : List Text} (hsome : names ≠ [])
    (hsystem : ∀ name ∈ names, isSystemText name = true)
    (h : 195 * rounds + systemLength (Text.join [Path.slash] names) ≤ pathLimit) :
    refusal? (around rounds names) = none := by
  rw [refusal?_around rounds hsome hsystem, if_neg (Nat.not_lt.2 h)]

theorem round_lengths :
    systemLength (Text.join [Path.slash] [roundName]) = 191 ∧
      systemLength (Text.join [Path.slash] [roundName, "x.c"]) = 195 ∧
      systemLength (Text.join [Path.slash] [roundName, "x.out.c"]) = 199 := by decide +kernel

theorem lookup_around {rounds : Nat} {names : List Text} {l : Location} {node : Node}
    (hrefusal : refusal? (around rounds names) = none)
    (h : roundSurroundings.tree.walk true linkLimit [] names = .ok (.node l node)) :
    roundSurroundings.tree.lookup [] (around rounds names) = .ok (l, node) := by
  refine lookup_eq_ok_iff.2 (find_eq_ok_iff.2 ⟨hrefusal, ?_⟩)
  obtain ⟨⟨⟨hdot, hdots⟩, hshort⟩, -⟩ := roundName_plain
  have hdirectory : roundSurroundings.tree.node? ([] ++ [roundName]) = some .directory := rfl
  show roundSurroundings.tree.walk true linkLimit [] (around rounds names).names = _
  -- each round leads into the directory and out again; the limit is no matter of the walk
  clear hrefusal
  induction rounds with
  | zero => exact h
  | succ rounds ih =>
    have hnames : (around (rounds + 1) names).names =
        roundName :: ".." :: (around rounds names).names := rfl
    rw [hnames, walk_name hdot hdots hshort, hdirectory]
    dsimp only
    rw [walk, if_neg (by decide), if_pos rfl]
    exact ih

theorem round_lookups {rounds : Nat} (h : rounds ≤ 20) :
    roundSurroundings.tree.lookup [] (around rounds [roundName]) =
        .ok ([roundName], .directory) ∧
      roundSurroundings.tree.lookup [] (around rounds [roundName, "x.c"]) =
        .ok ([roundName, "x.c"], .file (.bytes [0x78])) := by
  obtain ⟨hordinary, -, -, hsystem, -⟩ := roundName_plain
  obtain ⟨hname, hlisting, -⟩ := round_lengths
  have hplain : isSystemText "x.c" = true := by decide
  have hdirectory : refusal? (around rounds [roundName]) = none := by
    refine refusal?_around_of_le (by simp) (by simpa using hsystem) ?_
    rw [hname, pathLimit]
    omega
  have hfile : refusal? (around rounds [roundName, "x.c"]) = none := by
    refine refusal?_around_of_le (by simp) (by simp [hsystem, hplain]) ?_
    rw [hlisting, pathLimit]
    omega
  have hleads : roundSurroundings.tree.LeadsOn [] [roundName] ∧
      roundSurroundings.tree.LeadsOn [] [roundName, "x.c"] :=
    ⟨⟨hordinary, .inl rfl⟩, hordinary, .inr ⟨rfl, by decide, .inl rfl⟩⟩
  exact ⟨lookup_around hdirectory (hleads.1.walk_node rfl (by simp)),
    lookup_around hfile (hleads.2.walk_node rfl (by simp))⟩

theorem round_directories :
    ∀ path ∈ roundPaths, roundSurroundings.tree.HasDirectory roundSurroundings.base path := by
  simp only [roundPaths, List.forall_mem_cons]
  exact ⟨⟨_, (round_lookups (Nat.zero_le _)).1⟩, ⟨_, (round_lookups (Nat.le_refl _)).1⟩, by simp⟩

theorem round_given : readInvocation roundSurroundings.tree roundSurroundings.base roundGiven =
    .ok ⟨false, .analyze roundTask⟩ := by
  obtain ⟨⟨⟨hdot, -⟩, -⟩, hsome, hslash, -⟩ := roundName_plain
  have hoperand (rounds : Nat) : (around rounds [roundName]).IsOperand := by
    refine ⟨rfl, around_names_ne_nil (by simp), forall_mem_around ⟨hsome, hdot, hslash⟩ (by decide)
      (List.forall_mem_singleton.2 ⟨hsome, hdot, hslash⟩), ?_⟩
    -- the first name is the same with and without rounds
    have hfirst : (around rounds [roundName]).names.head? = some roundName := by
      cases rounds <;> rfl
    rw [hfirst]
    rintro name ⟨⟩
    decide
  refine readInvocation_directories (by simp [roundPaths]) ?_ round_directories
  simp only [roundPaths, List.forall_mem_cons]
  exact ⟨hoperand 0, hoperand 20, by simp⟩

/-- Two ways to one directory with one listing find that listing once, by the first way. -/
theorem discover_of_two_ways {tree : FileTree} {base d l : Location} {first second : Path}
    {found again : Path} {content : Content}
    (hfirst : tree.lookup base first = .ok (d, .directory))
    (hsecond : tree.lookup base second = .ok (d, .directory))
    (hfound : listingsBelow tree base first d ".c" = .ok [found])
    (hagain : listingsBelow tree base second d ".c" = .ok [again])
    (hfile : tree.lookup base found = .ok (l, .file content))
    (hfile' : tree.lookup base again = .ok (l, .file content)) :
    (discover tree base defaultExtensions [first, second]).1 = .ok [found] := by
  simp [discover, expandAll, expand, hfirst, hsecond, defaultExtensions, listingsFor, hfound,
    hagain, Except.map, dropRepeated, location, hfile, hfile']

theorem round_inputs : (discover roundSurroundings.tree [] defaultExtensions roundPaths).1 =
    .ok [around 0 [roundName, "x.c"]] := by
  obtain ⟨hdirectory, hfile⟩ := round_lookups (Nat.zero_le 20)
  obtain ⟨hdirectory', hfile'⟩ := round_lookups (Nat.le_refl 20)
  have hbelow : directoriesBelow roundSurroundings.tree [roundName] = [] ∧
      below roundSurroundings.tree [roundName] = ([["x.c"]] : List (List Text)) := by
    decide
  have hmatch : isMatch ".c" "x.c" = true := isMatch_iff.2 (by decide)
  have hmatches (path : Path) : matchesBelow roundSurroundings.tree path [roundName] ".c" =
      [path.descend ["x.c"]] := by simp [matchesBelow, hbelow.2, hmatch]
  have hlistings {rounds : Nat} (h : rounds ≤ 20) : listingsBelow roundSurroundings.tree []
      (around rounds [roundName]) [roundName] ".c" = .ok [around rounds [roundName, "x.c"]] := by
    have hdescend : (around rounds [roundName]).descend ["x.c"] =
        around rounds [roundName, "x.c"] := by simp [around, Path.descend]
    have hresult : isResultFile (around rounds [roundName, "x.c"]) = false := by
      simp [isResultFile, Path.name?, around]
      decide
    have hname : isBadExtension ".c" = false := by decide
    simp [listingsBelow, hname, hbelow.1, hmatches, hdescend, enter, filesAmong, FileTree.isFile,
      askWhether, (round_lookups h).2, Except.map, hresult]
  exact discover_of_two_ways hdirectory hdirectory' (hlistings (Nat.zero_le 20))
    (hlistings (Nat.le_refl 20)) hfile hfile'

theorem round_outputs :
    Job.Outputs ⟨roundTask, .default, [], 80⟩ roundSurroundings.tree
      [around 0 [roundName, "x.c"]] fun _ => [roundName, "x.out.c"] where
  opens := by
    obtain ⟨hordinary, -, -, hsystem, -⟩ := roundName_plain
    have hplain : isSystemText "x.out.c" = true := by decide
    have hrefusal : refusal? (around 0 [roundName, "x.out.c"]) = none := by
      refine refusal?_around_of_le (by simp) (by simp [hsystem, hplain]) ?_
      rw [round_lengths.2.2, pathLimit]
      omega
    have hstraight : roundSurroundings.tree.IsStraight [] (around 0 [roundName, "x.out.c"])
        [roundName, "x.out.c"] :=
      ⟨rfl, hrefusal, hordinary, .inr ⟨rfl, by decide, .inl rfl⟩⟩
    simp only [List.forall_mem_singleton]
    exact ⟨_, _, rfl, hstraight.open_free rfl false⟩
  distinct := by simp
  apart := by
    have hfile := (round_lookups (Nat.zero_le 20)).2
    simp only [List.forall_mem_singleton]
    have hne : ("x.out.c" : Text) ≠ "x.c" := by decide
    show _ ≠ location roundSurroundings.tree [] (around 0 [roundName, "x.c"])
    simp [location, hfile, hne]

theorem round_saved : (run roundSurroundings roundGiven).tree.node? [roundName, "x.out.c"] =
    some (.file (.bytes (Writer.content [Job.plainBlock "x"]))) := by
  have hletter : (∀ r ∈ ("x" : Text), Utf8.IsStable r) ∧ Utf8.isEncodable "x" = true := by decide
  have hread : Listing.read roundSurroundings.tree [] (around 0 [roundName, "x.c"]) = .ok "x" := by
    refine read_of_isStable ?_ hletter.1 hletter.2
    rw [FileTree.read, (round_lookups (Nat.zero_le 20)).2]
    rfl
  have hblocks : Listing.blocks "x" = [⟨[], "x"⟩] := by decide +kernel
  have hplain : Console.IsPlain (around 0 [roundName, "x.c"]).toText ∧
      Console.IsPlain (around 0 [roundName, "x.out.c"]).toText := by decide
  refine node?_run_of_plainReply round_given (resolve_default_atTop (by decide)) rfl rfl
    round_inputs round_outputs hread hblocks hletter.2 rfl hplain.1 fun output houtput => ?_
  obtain rfl : around 0 [roundName, "x.out.c"] = output := Option.some.inj houtput
  exact hplain.2

/-- The result file is short enough to be made, but the way around to it is too long, and so the
same search breaks off after the run. -/
theorem run_not_findsSame_around :
    readInvocation roundSurroundings.tree roundSurroundings.base roundGiven =
        .ok ⟨false, .analyze roundTask⟩ ∧
      roundSurroundings.tree.HasNoLinks ∧
      (∀ path ∈ roundTask.paths,
        roundSurroundings.tree.HasDirectory roundSurroundings.base path) ∧
      (discover roundSurroundings.tree [] defaultExtensions roundTask.paths).1 =
        .ok [around 0 [roundName, "x.c"]] ∧
      (∃ escape, IsLimit escape ∧ (discover (run roundSurroundings roundGiven).tree []
        defaultExtensions roundTask.paths).1 = .error (.escaped escape)) ∧
      ¬FindsSame roundSurroundings.tree (run roundSurroundings roundGiven).tree []
        roundTask.paths := by
  have hlinks : roundSurroundings.tree.HasNoLinks :=
    hasNoLinks_of_nodes (by simp [roundSurroundings])
  have hdirectories : ∀ path ∈ roundTask.paths,
      roundSurroundings.tree.HasDirectory roundSurroundings.base path := round_directories
  have hwrites := writesOnly_run round_given hlinks hdirectories round_inputs
  have hnot : ¬NewPathsFit roundSurroundings.tree (run roundSurroundings roundGiven).tree []
      roundTask.paths := by
    intro hfit
    have hlong : refusal? ((around 20 [roundName]).descend ["x.out.c"]) = some .nameTooLong := by
      have hnames : ∀ name ∈ [roundName, "x.out.c"], isSystemText name = true := by decide
      rw [show (around 20 [roundName]).descend ["x.out.c"] = around 20 [roundName, "x.out.c"] from
        rfl, refusal?_around _ (by simp) hnames, round_lengths.2.2]
      rfl
    -- below the directory itself the path to the new file is short, but not behind the rounds
    refine hfit (around 20 [roundName]) (by simp [roundTask, roundPaths]) _
      ⟨[roundName], ["x.out.c"], ?_, .entry ?_, by decide, rfl⟩ hlong
    · exact hwrites.sameInner.lookup_directory (round_lookups (Nat.le_refl 20)).1
    · exact Option.isSome_iff_exists.2 ⟨_, round_saved⟩
  obtain ⟨escape, hlimit, hescape⟩ := breaksOff_of_not_newPathsFit hdirectories hwrites hnot
  exact ⟨round_given, hlinks, hdirectories, round_inputs, ⟨escape, hlimit, hescape⟩,
    not_findsSame_of_error round_inputs hescape⟩

end Command

end Nomenclator

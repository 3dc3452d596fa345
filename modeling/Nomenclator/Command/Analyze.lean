import Nomenclator.Command.Request
import Nomenclator.Command.Run
import Nomenclator.Listing.Basic
import Nomenclator.Listing.Discovery
import Nomenclator.Output.Writer
import Nomenclator.Report.Analysis

/-!
# The analyze command

Takes listing after listing and function after function, each with one call to the service, and
shows and saves what comes of it. The first failure ends the run; what was done before stays.
-/

namespace Nomenclator.Command

open Console

/-- A task with all that it takes to carry it out. -/
structure Job where
  task : Task
  settings : Settings
  base : Location
  width : Nat

/-- What has become of a listing. Without a writer nothing is saved. -/
structure Progress where
  result : Except Halt Unit
  writer : Option Writer
  run : Run

namespace Job

/-- Text in backquotes, shown as it is. -/
def backquoted (t : Text) : Text := Text.concat ["`", Markup.escape t, "`"]

def startLine (job : Job) (path : Path) : Showing :=
  .one (printed job.width (Text.concat ["[*] Analyzing pseudo-code in ", backquoted path.toText]))

/-- The report on a function, under a line that tells how far the listing is. -/
def report (job : Job) (number total : Nat) (a : Analysis) : Showing :=
  .ofList
    (printed job.width
        (Text.concat
          ["[green][+] Successfully analyzed function ", Text.ofNat number, "/", Text.ofNat total,
            "[/green]\n"]) ::
      Report.parts job.width job.task.showCode a)

def savedLine (job : Job) (path : Path) : Showing :=
  .one (printed job.width
    (Text.concat ["[*] Saved improved pseudo-code in ", backquoted path.toText]))

def doneLine (job : Job) : Showing :=
  .one (printed job.width "[green][+] Done analyzing pseudo-code[/green]")

def interruptedLine (job : Job) : Showing :=
  .one (printed job.width "[bold red][!] Interrupted[/bold red]")

/-! ## One listing -/

/-- The functions of a listing, or all of it as one. -/
def blocks (job : Job) (text : Text) : List Listing.Block :=
  if job.task.split then Listing.blocks text
  else if Text.isBlank text then []
  else [⟨[], text⟩]

def blocksLog (job : Job) (text : Text) : Log := if job.task.split then Listing.log text else []

/-- Saves an analysis if there is a writer. -/
def save (job : Job) (writer : Option Writer) (run : Run) (separator : Text) (a : Analysis) :
    Progress :=
  match writer with
  | none => ⟨.ok (), none, run⟩
  | some writer =>
    let step := writer.write run.tree job.base a separator
    ⟨step.result, some step.writer, run.withTree step.tree⟩

/-- Takes one function: asks, shows, saves. -/
def analyzeBlock (job : Job) (total index : Nat) (writer : Option Writer) (run : Run)
    (block : Listing.Block) : Progress :=
  let backend := Service.backend job.settings
  let attempt :=
    Attempt.analysis backend job.settings index block.body (run.replies.headD backend.silence)
  let run := run.tookReply attempt.calls attempt.log
  match attempt.result with
  | .error halt => ⟨.error halt, writer, run⟩
  | .ok a =>
    match run.say (job.report (index + 1) total a) with
    | (.error halt, run) => ⟨.error halt, writer, run⟩
    | (.ok (), run) => job.save writer run block.separator a

/-- Takes the functions of a listing from number `index` on. -/
def analyzeBlocks (job : Job) (total index : Nat) (writer : Option Writer) (run : Run) :
    List Listing.Block → Progress
  | [] => ⟨.ok (), writer, run⟩
  | block :: rest =>
    let progress := job.analyzeBlock total index writer run block
    match progress.result with
    | .error _ => progress
    | .ok () => job.analyzeBlocks total (index + 1) progress.writer progress.run rest

/-- Closes the writer, whether all went well or not. -/
def finish (job : Job) (progress : Progress) : Except Halt Unit × Run :=
  match progress.writer with
  | none => (progress.result, progress.run)
  | some writer =>
    let (writer, tree, log) := writer.close progress.run.tree
    let run := (progress.run.withTree tree).note log
    match progress.result with
    | .ok () => run.say (job.savedLine writer.path)
    | .error halt => (.error halt, run)

/-- Reads a listing and takes its functions. -/
def analyzeText (job : Job) (run : Run) (path : Path) : Except Halt Unit × Run :=
  match Listing.read run.tree job.base path with
  | .error halt => (.error halt, run)
  | .ok text =>
    let run := run.note (job.blocksLog text)
    let blocks := job.blocks text
    match blocks, outputPath? path with
    | [], _ => (.error (.failed (.input (.empty path.toText))), run)
    | _, none => (.error (.escaped (.badValue (noNameMessage path))), run)
    | _, some output =>
      let writer := if job.task.write then some (Writer.new output job.task.overwrite) else none
      job.finish (job.analyzeBlocks blocks.length 0 writer run blocks)

def analyzeListing (job : Job) (run : Run) (path : Path) : Except Halt Unit × Run :=
  match run.say (job.startLine path) with
  | (.error halt, run) => (.error halt, run)
  | (.ok (), run) => job.analyzeText run path

/-! ## All listings -/

def analyzeListings (job : Job) (run : Run) : List Path → Except Halt Unit × Run
  | [] => (.ok (), run)
  | path :: rest =>
    match job.analyzeListing run path with
    | (.error halt, run) => (.error halt, run)
    | (.ok (), run) => job.analyzeListings run rest

def discovered (job : Job) (run : Run) : Except Halt (List Path) × Run :=
  let (paths, log) := Listing.discover run.tree job.base Listing.defaultExtensions job.task.paths
  (paths, run.note log)

/-- All that the task asks for. -/
def work (job : Job) (run : Run) : Except Halt Unit × Run :=
  match job.discovered run with
  | (.error halt, run) => (.error halt, run)
  | (.ok paths, run) => job.analyzeListings run paths

def abortedLog : Log := [⟨.debug, .analyzeCommand, "Analysis aborted"⟩]

/-- Tells how the work went. -/
def conclude (job : Job) : Except Halt Unit × Run → Ending × Run
  | (.ok (), run) => run.sayThen job.doneLine fun run => (.exit exitDone, run)
  | (.error (.failed failure), run) =>
    run.sayThen (Report.ofFailure job.width failure) fun run =>
      (.exit failure.exitCode, run.note abortedLog)
  | (.error (.escaped .interrupted), run) =>
    run.sayThen job.interruptedLine fun run => (.exit exitInterrupted, run)
  | (.error (.escaped escape), run) => (.escaped escape, run)

def perform (job : Job) (run : Run) : Ending × Run := job.conclude (job.work run)

end Job

end Nomenclator.Command

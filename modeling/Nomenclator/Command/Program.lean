import Nomenclator.Command.Analyze
import Nomenclator.Command.Status

/-!
# The program

From the words of a command line to an exit code, the text on both outputs, and the files.
-/

namespace Nomenclator.Command

/-- What a run leaves behind. -/
structure Outcome where
  /-- The exit code, unless something came up that the program has no answer to. -/
  ending : Except Escape Nat
  output : Text
  errors : Text
  tree : FileTree
  calls : List Service.Call

/-- The lines of a log. A quiet run keeps the details to itself. -/
def logText (verbose : Bool) (log : Log) : Text :=
  Console.endLines ((log.filter fun record => verbose || record.level.isInfo).map Record.line)

/-- What is logged of an error of the operating system that no command has an answer to. -/
def systemLog : Log := [⟨.debug, .commandLine, "Unhandled I/O error in CLI execution"⟩]

def brokenOffText : Text := "\nAborted!\n"

/-- What is left of a run of a command. -/
def settle (verbose : Bool) (command : Command) : Ending × Run → Outcome
  | (.exit code, run) => ⟨.ok code, run.output, logText verbose run.log, run.tree, run.calls⟩
  | (.refused problem, run) =>
    ⟨.ok exitMisused, run.output, logText verbose run.log ++ problem.text command, run.tree,
      run.calls⟩
  | (.brokenOff, run) =>
    ⟨.ok exitUnexpected, run.output, logText verbose run.log ++ brokenOffText, run.tree, run.calls⟩
  | (.escaped escape, run) =>
    ⟨.error escape, run.output, logText verbose run.log, run.tree, run.calls⟩

/-- Ends a run of a command. An error of the operating system is reported. -/
def conclude (surroundings : Surroundings) (verbose : Bool) (command : Command) :
    Ending × Run → Outcome
  | (.escaped escape, run) =>
    settle verbose command <|
      if escape.isSystem then
        run.sayThen (Report.ofChain surroundings.width [escape.message]) fun run =>
          (.exit exitUnexpected, run.note systemLog)
      else (.escaped escape, run)
  | ending => settle verbose command ending

/-- Resolves the settings and goes on with them. Values that cannot be used are the user's
mistake. -/
def withSettings (surroundings : Surroundings) (options : Settings.Options)
    (go : Settings → Run → Ending × Run) : Ending × Run :=
  let resolution :=
    Settings.resolve options surroundings.environment surroundings.tree surroundings.base
      surroundings.root surroundings.home
  let run := Run.start surroundings resolution.log
  match resolution.result with
  | .ok settings => go settings run
  | .error escape =>
    if escape.isBadValue then (.refused (.badSettings escape.message), run)
    else (.escaped escape, run)

def analyzeWith (surroundings : Surroundings) (task : Task) : Ending × Run :=
  withSettings surroundings task.options fun settings run =>
    Job.perform ⟨task, settings, surroundings.base, surroundings.width⟩ run

def statusWith (surroundings : Surroundings) (options : Settings.Options) : Ending × Run :=
  withSettings surroundings options fun settings run =>
    Status.perform settings surroundings.width run

/-- An outcome that shows a text and does nothing else. -/
def Outcome.shown (surroundings : Surroundings) (code : Nat) (output errors : Text) : Outcome :=
  ⟨.ok code, output, errors, surroundings.tree, []⟩

def versionText : Text := Text.concat [programName, ", version ", programVersion, "\n"]

/-- Runs the program. -/
def run (surroundings : Surroundings) (given : List Text) : Outcome :=
  match readInvocation surroundings.tree surroundings.base given with
  | .error .noWords => .shown surroundings exitMisused [] program.help
  | .error (.misused command problem) =>
    .shown surroundings exitMisused [] (problem.text command)
  | .ok ⟨_, .version⟩ => .shown surroundings exitDone versionText []
  | .ok ⟨_, .help command⟩ => .shown surroundings exitDone command.help []
  | .ok ⟨verbose, .analyze task⟩ =>
    conclude surroundings verbose analyze (analyzeWith surroundings task)
  | .ok ⟨verbose, .status options⟩ =>
    conclude surroundings verbose status (statusWith surroundings options)

end Nomenclator.Command

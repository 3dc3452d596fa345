import Nomenclator.Analysis.Attempt
import Nomenclator.Command.Problem
import Nomenclator.Console.Print
import Nomenclator.Report.Failure
import Nomenclator.Settings.Environment

/-!
# Runs

What a command finds when it starts, what it has done so far, and the ways in which it can end. The
replies of the service are known from the start, one for each call, so a run is a function of them.
-/

namespace Nomenclator.Command

/-- What a run starts from. Relative paths start at `base`; the project's files are in `root`. -/
structure Surroundings where
  tree : FileTree
  base : Location
  root : Path
  home : Path
  environment : Environment
  /-- The width of the console. -/
  width : Nat
  replies : List Service.Reply

/-- What has happened so far, with the replies that are left. -/
structure Run where
  tree : FileTree
  replies : List Service.Reply
  output : Text
  log : Log
  calls : List Service.Call

/-- How a command ends. -/
inductive Ending where
  | exit (code : Nat)
  | refused (problem : Problem)
  /-- The user broke off a command that does not see to it. -/
  | brokenOff
  | escaped (escape : Escape)
deriving DecidableEq, Repr

namespace Run

def start (surroundings : Surroundings) (log : Log) : Run where
  tree := surroundings.tree
  replies := surroundings.replies
  output := []
  log := log
  calls := []

/-- Shows more, as far as it goes. -/
def say (run : Run) (showing : Console.Showing) : Except Halt Unit × Run :=
  (match showing.stop with
    | none => .ok ()
    | some error => .error (.escaped (.unshowable error)),
    { run with output := run.output ++ showing.text })

def note (run : Run) (log : Log) : Run := { run with log := run.log ++ log }

/-- Takes the next reply for a step that made `calls`. -/
def tookReply (run : Run) (calls : List Service.Call) (log : Log) : Run :=
  { run with
    replies := run.replies.tail
    calls := run.calls ++ calls
    log := run.log ++ log }

def withTree (run : Run) (tree : FileTree) : Run := { run with tree := tree }

end Run

/-- Shows more and goes on, unless it cannot be shown. -/
def Run.sayThen (run : Run) (showing : Console.Showing) (goOn : Run → Ending × Run) :
    Ending × Run :=
  match showing.stop, run.say showing with
  | none, (_, run) => goOn run
  | some error, (_, run) => (.escaped (.unshowable error), run)

/-! ## Exit codes -/

def exitDone : Nat := 0

def exitUnexpected : Nat := 1

def exitMisused : Nat := 2

def exitInterrupted : Nat := 130

end Nomenclator.Command

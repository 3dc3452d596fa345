import Nomenclator.Command.Words
import Nomenclator.Files.Tree
import Nomenclator.Number.Reading
import Nomenclator.Settings.Resolution

/-!
# Requests

What the user asks for with the words of a command line. Asking for help or for the version counts
more than anything else that the same words ask for; of several faults the one in a switch comes
first.
-/

namespace Nomenclator.Command

/-- An analysis as the user wants it. -/
structure Task where
  options : Settings.Options
  paths : List Path
  split : Bool
  write : Bool
  overwrite : Bool
  showCode : Bool

inductive Request where
  | version
  | help (command : Command)
  | analyze (task : Task)
  | status (options : Settings.Options)

/-- A request with the wish to see more of the log. -/
structure Invocation where
  verbose : Bool
  request : Request

/-- Why there is no request. -/
inductive Refusal where
  | noWords
  | misused (command : Command) (problem : Problem)
deriving DecidableEq, Repr

/-- The version or a help page, if words ask for one; of both the first that is asked for. -/
def urgent? (command : Command) (words : Words) : Option Request :=
  words.given.findSome? fun given =>
    match given.switch with
    | .version => some .version
    | .help => some (.help command)
    | _ => none

def timeoutOf (words : Words) : Except Problem (Option Value) :=
  match words.value? .timeout with
  | none => .ok none
  | some given =>
    match readReal? given with
    | some x => .ok (some (.real x))
    | none => .error (.notNumber .timeout given)

def taskOf (tree : FileTree) (base : Location) (words : Words) : Except Problem Task :=
  match timeoutOf words with
  | .error problem => .error problem
  | .ok timeout =>
    match words.operands, words.operands.find? fun given => !tree.leadsSomewhere base given with
    | [], _ => .error .noPaths
    | _, some given => .error (.noSuchPath given)
    | operands, none =>
      .ok
        { options := ⟨words.value? .baseUrl, words.value? .model, timeout⟩
          paths := operands.map Path.ofText
          split := words.isOn .split .noSplit
          write := words.isOn .write .noWrite
          overwrite := words.has .overwrite
          showCode := words.has .showCode }

/-- What the words after the name of a command ask for. -/
def requestOf (tree : FileTree) (base : Location) (command : Command) (words : Words) :
    Except Problem Request :=
  match urgent? command words, command with
  | some request, _ => .ok request
  | none, .analyze => (taskOf tree base words).map .analyze
  | none, .status =>
    if words.operands.isEmpty then
      .ok (.status ⟨words.value? .baseUrl, words.value? .model, none⟩)
    else .error (.tooManyOperands words.operands)
  | none, .program => .error .noCommand

/-- Reads the words after the name of a command. -/
def readRequest (tree : FileTree) (base : Location) (command : Command) (given : List Text) :
    Except Problem Request :=
  match readWords command.switches true given with
  | .error problem => .error problem
  | .ok words => requestOf tree base command words

/-- An unknown name may be a switch behind two dashes; then it is read as one before it is
refused. -/
def readUnknown (name : Text) (rest : List Text) : Except Problem Request :=
  match readWords program.switches false (name :: rest) with
  | .error problem => .error problem
  | .ok words =>
    match urgent? program words with
    | some request => .ok request
    | none => .error (.noSuchCommand name)

/-- Reads a command line. -/
def readInvocation (tree : FileTree) (base : Location) (given : List Text) :
    Except Refusal Invocation :=
  match given with
  | [] => .error .noWords
  | _ =>
    let blame (command : Command) (verbose : Bool) (request : Except Problem Request) :
        Except Refusal Invocation :=
      match request with
      | .ok request => .ok ⟨verbose, request⟩
      | .error problem => .error (.misused command problem)
    match readWords program.switches false given with
    | .error problem => .error (.misused program problem)
    | .ok words =>
      let verbose := words.has .verbose
      match urgent? program words, words.operands with
      | some request, _ => .ok ⟨verbose, request⟩
      | none, [] => .error (.misused program .noCommand)
      | none, name :: rest =>
        match named? name with
        | some command => blame command verbose (readRequest tree base command rest)
        | none => blame program verbose (readUnknown name rest)

end Nomenclator.Command

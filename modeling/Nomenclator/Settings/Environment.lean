import Nomenclator.Failure.Escape
import Nomenclator.Files.Tree
import Nomenclator.Log
import Nomenclator.Settings.EnvFile

/-!
# The environment

Variables of the process, completed from environment files: what is set already, even to nothing,
stays as it is, and among files the first one wins.
-/

namespace Nomenclator

abbrev Environment := Entries Text

namespace Environment

def baseUrlVariable : Text := "OLLAMA_BASEURL"

def modelVariable : Text := "OLLAMA_MODEL"

/-- The variable that turns environment files off. -/
def disablingVariable : Text := "PYTHON_DOTENV_DISABLED"

/-- Letters count in either case; the long s is an `s`. -/
def foldCase (t : Text) : Text :=
  Text.asciiLower (t.map fun r => if r.code = 0x17F then Rune.ofChar 's' else r)

def filesDisabled (environment : Environment) : Bool :=
  match environment.get? disablingVariable with
  | some value =>
    [Text.ofString "1", Text.ofString "true", Text.ofString "t", Text.ofString "yes",
      Text.ofString "y"].contains (foldCase value)
  | none => false

/-- Why a variable cannot be set. -/
def refusal? (name value : Text) : Option Text :=
  if (name ++ value).any fun r => r.code == 0 then some "embedded null byte"
  else if name.any fun r => r.code == 0x3D then some "illegal environment variable name"
  else none

/-- Sets the variables that are not set yet, up to the first one that cannot be set. -/
def complete (environment : Environment) :
    Entries (Option Text) → Except Escape Unit × Environment
  | [] => (.ok (), environment)
  | (name, value) :: rest =>
    match value with
    | none => complete environment rest
    | some value =>
      if environment.hasKey name then complete environment rest
      else
        match refusal? name value with
        | some message => (.error (.badValue message), environment)
        | none => complete (environment.put name value) rest

def statementLog (statement : EnvFile.Statement) : Log :=
  match statement with
  | .malformed line =>
    [⟨.warning, .environmentFile,
      Text.concat
        ["python-dotenv could not parse statement starting at line ", Text.ofNat line]⟩]
  | _ => []

/-- Completes the environment from the text of a file. -/
def completeFrom (environment : Environment) (text : Text) :
    Except Escape Unit × Environment × Log :=
  let statements := EnvFile.statements text
  let (result, completed) := environment.complete (EnvFile.resolve environment statements)
  (result, completed, statements.flatMap statementLog)

/-- Completes the environment from a file, if it is one: a directory of that name holds nothing. A
file that cannot be opened ends the completion. -/
def completeFromFile (environment : Environment) (tree : FileTree) (base : Location) (path : Path) :
    Except Escape Unit × Environment × Log :=
  if environment.filesDisabled then
    (.ok (), environment,
      [⟨.debug, .environmentFile,
        Text.concat
          ["python-dotenv: .env loading disabled by ", disablingVariable,
            " environment variable"]⟩])
  else
    match tree.lookup base path with
    | .ok (_, .file (.locked error)) => (.error (.file error path.toText), environment, [])
    | .ok (_, .file (.bytes bytes)) =>
      match Utf8.decode bytes with
      | .error problem => (.error (.undecodable problem), environment, [])
      | .ok text => environment.completeFrom text.unifyLineEnds
    | _ => (.ok (), environment, [])

/-- Completes the environment from one file after the other; files that are missing do not count. -/
def load (environment : Environment) (tree : FileTree) (base : Location) :
    List Path → Except Escape Unit × Environment × Log
  | [] => (.ok (), environment, [])
  | path :: rest =>
    match tree.pathExists base path with
    | .error error => (.error (.file error path.toText), environment, [])
    | .ok false => load environment tree base rest
    | .ok true =>
      let loading : Record :=
        ⟨.debug, .settings, Text.concat ["Loading environment from ", path.toText]⟩
      match environment.completeFromFile tree base path with
      | (.error e, environment, log) => (.error e, environment, loading :: log)
      | (.ok (), environment, log) =>
        let (result, environment, more) := load environment tree base rest
        (result, environment, loading :: log ++ more)

/-- The environment files: one in each directory, then the one of the user. -/
def filePaths (directories : List Path) (home : Path) : List Path :=
  (directories.map fun d => d.child ".env") ++ [home.child ".oneiromancer.env"]

end Environment

end Nomenclator

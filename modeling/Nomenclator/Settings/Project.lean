import Nomenclator.Failure.Escape
import Nomenclator.Files.Tree
import Nomenclator.Log
import Nomenclator.Toml.Reader

/-!
# The project file

A project may hold settings in its own section of a TOML document.
-/

namespace Nomenclator.Project

def fileName : Text := "pyproject.toml"

def sectionPath : Text × Text := ("tool", programName)

def notLoaded (path : Path) : Log :=
  [⟨.warning, .settings, Text.concat ["Failed to load ", path.toText]⟩]

def notTable (path : Path) : Log :=
  [⟨.warning, .settings,
    Text.concat
      ["Ignoring non-table [", sectionPath.1, ".", sectionPath.2, "] in ", path.toText]⟩]

/-- The section in a document. A missing one is empty, and so is one that is no table; above it
there has to be a table. -/
def sectionOf (path : Path) (document : Entries Value) : Except Escape (Entries Value) × Log :=
  match document.get? sectionPath.1 with
  | none => (.ok [], [])
  | some (.table tools) =>
    match Entries.get? sectionPath.2 tools with
    | none => (.ok [], [])
    | some (.table entries) => (.ok entries, [])
    | some _ => (.ok [], notTable path)
  | some _ => (.error .missingMember, [])

/-- The section in the bytes of a file. A malformed document counts as empty. -/
def sectionIn (path : Path) (bytes : Utf8.Bytes) : Except Escape (Entries Value) × Log :=
  match Utf8.decode bytes with
  | .error problem => (.error (.undecodable problem), [])
  | .ok text =>
    match Toml.decode text with
    | .ok document => sectionOf path document
    | .error .malformed => (.ok [], notLoaded path)
    | .error (.integerTooLong digits) => (.error (.integerTooLong digits), [])
    | .error .tooDeep => (.error .nestingTooDeep, [])

/-- The section of a project file. A missing file is empty, and so is one that cannot be read. -/
def load (tree : FileTree) (base : Location) (path : Path) :
    Except Escape (Entries Value) × Log :=
  match tree.pathExists base path with
  | .error error => (.error (.file error path.toText), [])
  | .ok false => (.ok [], [])
  | .ok true =>
    match tree.read base path with
    | .error _ => (.ok [], notLoaded path)
    | .ok bytes => sectionIn path bytes

end Nomenclator.Project

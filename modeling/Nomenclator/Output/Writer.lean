import Nomenclator.Analysis.Basic
import Nomenclator.Comment.Block
import Nomenclator.Failure.Escape
import Nomenclator.Files.Tree

/-!
# Writers

A writer collects the analyses of one listing in a file, one block after the other. The file is
opened by the first write, so a listing whose first function fails leaves nothing behind, and every
block is on disk before the next one is begun.
-/

namespace Nomenclator

/-- An open file. What is pending has been written to the handle but not to the file; it goes to
`offset`, where the last flush ended. -/
structure Handle where
  location : Location
  offset : Nat
  pending : Utf8.Bytes
deriving DecidableEq, Repr

namespace Handle

/-- Puts `bytes` into the file, with nothing left pending. -/
def flush (handle : Handle) (bytes : Utf8.Bytes) (tree : FileTree) : Handle × FileTree :=
  (⟨handle.location, handle.offset + bytes.length, []⟩,
    tree.writeAt handle.location handle.offset bytes)

end Handle

structure Writer where
  path : Path
  overwrite : Bool
  written : Nat
  handle : Option Handle
deriving DecidableEq, Repr

namespace Writer

def new (path : Path) (overwrite : Bool) : Writer := ⟨path, overwrite, 0, none⟩

/-- The block of an analysis: the line with its address if there is one, the comment, the code. -/
def blockPieces (separator : Text) (a : Analysis) : List Text :=
  (if separator.isEmpty then [] else [separator ++ [⟨0x0A⟩]]) ++
    [Comment.standard a.suggestion.name a.suggestion.description, a.renamed]

/-- Adds pieces to what is pending, up to the first that cannot be encoded. -/
def addPieces (pending : Utf8.Bytes) : List Text → Utf8.Bytes × Option Utf8.EncodeProblem
  | [] => (pending, none)
  | piece :: rest =>
    match Utf8.encode piece with
    | .error problem => (pending, some problem)
    | .ok bytes => addPieces (pending ++ bytes) rest

def openFailure (path : Path) : FileError → Failure
  | .present => .input (.wouldOverwrite path.toText)
  | error => .input (.notCreated path.toText error)

/-- What a step of a writer leaves: its result, the writer and the files. -/
structure Step where
  result : Except Halt Unit
  writer : Writer
  tree : FileTree

/-- The open handle, the pieces that go before a block, and the files. -/
def ready (w : Writer) (tree : FileTree) (base : Location) :
    Except Failure (Handle × List Text × FileTree) :=
  match w.handle with
  | some handle => .ok (handle, [[⟨0x0A⟩]], tree)
  | none =>
    match tree.openForWriting base w.path w.overwrite with
    | .ok (location, tree) => .ok (⟨location, 0, []⟩, [], tree)
    | .error error => .error (openFailure w.path error)

/-- Appends the block of an analysis. -/
def write (w : Writer) (tree : FileTree) (base : Location) (a : Analysis) (separator : Text) :
    Step :=
  match ready w tree base with
  | .error failure => ⟨.error (.failed failure), w, tree⟩
  | .ok (handle, before, tree) =>
    match addPieces handle.pending (before ++ blockPieces separator a) with
    | (pending, some problem) =>
      ⟨.error (.escaped (.unencodable problem)),
        { w with handle := some { handle with pending } }, tree⟩
    | (pending, none) =>
      let (handle, tree) := handle.flush pending tree
      ⟨.ok (), { w with handle := some handle, written := w.written + 1 }, tree⟩

/-- Closing puts what is pending into the file. -/
def close (w : Writer) (tree : FileTree) : Writer × FileTree × Log :=
  match w.handle with
  | none => (w, tree, [])
  | some handle =>
    ({ w with handle := none }, (handle.flush handle.pending tree).2,
      [⟨.debug, .output,
        Text.concat
          ["Wrote ", Text.ofNat w.written, " function(s) to ", w.path.toText]⟩])

/-- Writes analyses one after the other, up to the first that fails. -/
def writeEach (w : Writer) (tree : FileTree) (base : Location) : List Analysis → Step
  | [] => ⟨.ok (), w, tree⟩
  | a :: rest =>
    let step := w.write tree base a []
    match step.result with
    | .error _ => step
    | .ok () => step.writer.writeEach step.tree base rest

end Writer

/-- Writes all analyses to one file; the answer is how many there are. -/
def writeAnalyses (path : Path) (overwrite : Bool) (tree : FileTree) (base : Location)
    (analyses : List Analysis) : Except Halt Nat × FileTree × Log :=
  let step := (Writer.new path overwrite).writeEach tree base analyses
  let (writer, tree, log) := step.writer.close step.tree
  (step.result.map fun _ => writer.written, tree, log)

/-- The files that are new or changed between two states, with their content. -/
def FileTree.changes (before after : FileTree) : List (Location × Utf8.Bytes) :=
  after.nodes.filterMap fun (location, node) =>
    match node with
    | .file (.bytes bytes) =>
      if before.node? location = some node then none else some (location, bytes)
    | _ => none

end Nomenclator

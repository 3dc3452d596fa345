import Nomenclator.Failure.Escape
import Nomenclator.Files.Glob
import Nomenclator.Files.Tree
import Nomenclator.Log

/-!
# Finding listings

The inputs of a run: files named on the command line, whatever their names, and the listings below
named directories, without result files of earlier runs. No file comes twice, under whatever name.
-/

namespace Nomenclator.Listing

def defaultExtensions : List Text := [".c"]

/-- Does a walk along names from a directory come to something, through directories alone? -/
def reaches (tree : FileTree) (directory : Location) : List Text → Bool
  | [] => false
  | [name] => (tree.node? (directory ++ [name])).isSome
  | name :: rest =>
    tree.node? (directory ++ [name]) == some .directory && reaches tree (directory ++ [name]) rest

/-- The relative names of everything below a directory, links not followed. -/
def below (tree : FileTree) (directory : Location) : List (List Text) :=
  tree.nodes.filterMap fun entry =>
    let names := entry.1.drop directory.length
    if directory.isPrefixOf entry.1 && reaches tree directory names then some names else none

/-- The names of the directories among them. -/
def directoriesBelow (tree : FileTree) (directory : Location) : List (List Text) :=
  (below tree directory).filter fun names => tree.node? (directory ++ names) == some .directory

/-- How deep directories may lie below the one that is searched. -/
def depthLimit : Nat := 980

/-- Enters directories below a path, each by a path of its own. -/
def enter (path : Path) : List (List Text) → Except Escape Unit
  | [] => .ok ()
  | names :: rest =>
    if depthLimit < names.length then .error .nestingTooDeep
    else if FileTree.isPathTooLong (path.descend names) then
      .error (.file .nameTooLong (path.descend names).toText)
    else enter path rest

def twoStars : Text := "**"

def hasTwoStars : Text → Bool
  | ⟨0x2A⟩ :: ⟨0x2A⟩ :: _ => true
  | _ :: rest => hasTwoStars rest
  | [] => false

/-- Is a name one that an extension stands for? Two stars alone stand for directories only. -/
def isMatch (ext name : Text) : Bool :=
  Rune.ofChar '*' :: ext != twoStars && Glob.covers (Rune.ofChar '*' :: ext) name

/-- Two stars in a pattern stand alone or not at all. -/
def isBadExtension (ext : Text) : Bool :=
  Rune.ofChar '*' :: ext != twoStars && hasTwoStars (Rune.ofChar '*' :: ext)

/-- The paths below a directory whose names an extension stands for. -/
def matchesBelow (tree : FileTree) (path : Path) (directory : Location) (ext : Text) : List Path :=
  ((below tree directory).filter fun names => names.getLast?.any (isMatch ext)).map path.descend

/-- The files among some paths. A path that is too long ends the search, and so does a link to a
name that is. -/
def filesAmong (tree : FileTree) (base : Location) : List Path → Except Escape (List Path)
  | [] => .ok []
  | path :: rest =>
    match tree.isFile base path with
    | .error error => .error (.file error path.toText)
    | .ok isFile =>
      (filesAmong tree base rest).map fun files => if isFile then path :: files else files

def isResultFile (path : Path) : Bool := path.name?.any fun name => name.endsWith outputSuffix

/-- The listings below a directory for one extension. All directories are entered for it. -/
def listingsBelow (tree : FileTree) (base : Location) (path : Path) (directory : Location)
    (ext : Text) : Except Escape (List Path) :=
  if isBadExtension ext then
    .error (.badValue "Invalid pattern: '**' can only be an entire path component")
  else
    match enter path (directoriesBelow tree directory) with
    | .error escape => .error escape
    | .ok () =>
      (filesAmong tree base (matchesBelow tree path directory ext)).map fun files =>
        files.filter fun file => !isResultFile file

/-- The listings below a directory for one extension after the other. -/
def listingsFor (tree : FileTree) (base : Location) (path : Path) (directory : Location) :
    List Text → Except Escape (List Path)
  | [] => .ok []
  | ext :: rest =>
    match listingsBelow tree base path directory ext with
    | .error escape => .error escape
    | .ok files => (listingsFor tree base path directory rest).map (files ++ ·)

/-- What one argument contributes. -/
def expand (tree : FileTree) (base : Location) (exts : List Text) (path : Path) :
    Except Halt (List Path) × Log :=
  match tree.lookup base path with
  | .ok (directory, .directory) =>
    match listingsFor tree base path directory exts with
    | .error escape => (.error (.escaped escape), [])
    | .ok files =>
      let found := files.mergeSort Path.le
      (.ok found,
        [⟨.debug, .listing,
          Text.concat
            ["Found ", Text.ofNat found.length, " file(s) under ", path.toText]⟩])
  | .ok (_, .file _) => (.ok [path], [])
  | .error .nameTooLong => (.error (.escaped (.file .nameTooLong path.toText)), [])
  | _ => (.error (.failed (.input (.missing path.toText))), [])

/-- The contributions of all arguments up to the first that cannot be used. -/
def expandAll (tree : FileTree) (base : Location) (exts : List Text) :
    List Path → Except Halt (List Path) × Log
  | [] => (.ok [], [])
  | path :: rest =>
    match expand tree base exts path with
    | (.error halt, log) => (.error halt, log)
    | (.ok files, log) =>
      let (more, moreLog) := expandAll tree base exts rest
      (more.map (files ++ ·), log ++ moreLog)

/-- The file that a path leads to. -/
def location (tree : FileTree) (base : Location) (path : Path) : Location :=
  match tree.lookup base path with
  | .ok (location, _) => location
  | .error _ => []

/-- Keeps the first path to each file; `seen` are the files that have come already. -/
def dropRepeated (tree : FileTree) (base : Location) (seen : List Location) :
    List Path → List Path
  | [] => []
  | path :: rest =>
    let here := location tree base path
    if seen.contains here then dropRepeated tree base seen rest
    else path :: dropRepeated tree base (here :: seen) rest

def discover (tree : FileTree) (base : Location) (exts : List Text) (paths : List Path) :
    Except Halt (List Path) × Log :=
  let (found, log) := expandAll tree base exts paths
  (found.map (dropRepeated tree base []), log)

/-- A listing as text: undecodable bytes are replaced and every line end is a line feed. -/
def textOf (bytes : Utf8.Bytes) : Text := (Utf8.decodeReplacing bytes).unifyLineEnds

def read (tree : FileTree) (base : Location) (path : Path) : Except Halt Text :=
  match tree.read base path with
  | .ok bytes => .ok (textOf bytes)
  | .error error => .error (.failed (.input (.unreadable path.toText error)))

end Nomenclator.Listing

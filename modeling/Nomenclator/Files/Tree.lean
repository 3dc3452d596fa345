import Nomenclator.Files.Error
import Nomenclator.Files.Path
import Nomenclator.Text.Utf8

/-!
# File trees

A file system as data: which absolute paths hold a file, a directory or a link. Paths are walked
name by name; links are followed up to a limit, and there are limits on the length of a name and of
a whole path. There are no permissions but for files, which may be locked: every directory can be
entered, listed and written to.
-/

namespace Nomenclator

/-- A file that is locked cannot be opened, neither for reading nor for writing, and has the error
in which that ends. -/
inductive Content where
  | bytes (bytes : Utf8.Bytes)
  | locked (error : FileError)
deriving DecidableEq, Repr

inductive Node where
  | file (content : Content)
  | directory
  | link (target : Text)
deriving DecidableEq, Repr

/-- The names from the root of the tree. -/
abbrev Location := List Text

structure FileTree where
  nodes : List (Location × Node)
deriving Repr, DecidableEq

/-- Where a walk ends: at a node, or at a free name in a directory. -/
inductive Place where
  | node (location : Location) (node : Node)
  | free (location : Location)
deriving DecidableEq, Repr

namespace FileTree

def empty : FileTree := ⟨[]⟩

/-- The root is always a directory. -/
def node? (tree : FileTree) (location : Location) : Option Node :=
  if location = [] then some .directory
  else (tree.nodes.find? fun entry => entry.1 == location).map (·.2)

def put (tree : FileTree) (location : Location) (node : Node) : FileTree :=
  if (tree.nodes.any fun entry => entry.1 == location) then
    ⟨tree.nodes.map fun entry => if entry.1 = location then (location, node) else entry⟩
  else ⟨tree.nodes ++ [(location, node)]⟩

/-! ## Limits -/

def linkLimit : Nat := 40

def nameLimit : Nat := 255

def pathLimit : Nat := 4095

/-- A text as the system has it. A byte that is no UTF-8 stands in the text as a lone surrogate. -/
def systemBytes (t : Text) : Utf8.Bytes :=
  t.flatMap fun r => if r.within 0xDC80 0xDCFF then [r.code.toUInt8] else Utf8.encodeRune r

def systemLength (t : Text) : Nat := (systemBytes t).length

def isNameTooLong (name : Text) : Bool := nameLimit < systemLength name

/-- The limit on a path is one on what the system is handed, wherever that leads. -/
def isPathTooLong (p : Path) : Bool := pathLimit < systemLength p.toText

/-- Can the system be handed the text? It has no zeros, nor surrogates that stand for no byte. -/
def isSystemText (t : Text) : Bool :=
  t.all fun r => r.code != 0 && (!r.isSurrogate || r.within 0xDC80 0xDCFF)

/-- Why the system does not even begin with a path. -/
def refusal? (p : Path) : Option FileError :=
  if !p.names.all isSystemText then some .missing
  else if isPathTooLong p then some .nameTooLong
  else none

/-! ## Walking -/

/-- Where the target of a link starts. -/
def linkBase (directory : Location) (target : Text) : Location :=
  if Path.rootOf target = .relative then directory else []

/-- Walks along `names` from `directory`. The last name is not followed when it is a link and
`follow` is false; `links` more links may be followed on the way. -/
def walk (tree : FileTree) (follow : Bool) (links : Nat) (directory : Location) :
    List Text → Except FileError Place
  | [] => .ok (.node directory .directory)
  | name :: rest =>
    if name = "." then walk tree follow links directory rest
    else if name = ".." then walk tree follow links directory.dropLast rest
    else if isNameTooLong name then .error .nameTooLong
    else
      let location := directory ++ [name]
      match tree.node? location with
      | none => if rest = [] then .ok (.free location) else .error .missing
      | some (.file content) =>
        if rest = [] then .ok (.node location (.file content)) else .error .notDirectory
      | some .directory => walk tree follow links location rest
      | some (.link target) =>
        if rest = [] ∧ !follow then .ok (.node location (.link target))
        else
          match links with
          | 0 => .error .tooManyLinks
          | links + 1 =>
            walk tree follow links (linkBase directory target) (Path.namesIn target ++ rest)
termination_by names => (links, names.length)

/-- A relative path starts from `base`. -/
def start (base : Location) (p : Path) : Location := if p.root = .relative then base else []

/-- Where a path leads. -/
def find (tree : FileTree) (base : Location) (p : Path) (follow : Bool) :
    Except FileError Place :=
  match refusal? p with
  | some error => .error error
  | none => walk tree follow linkLimit (start base p) p.names

/-! ## Questions -/

/-- The node that a path leads to, with all links followed. -/
def lookup (tree : FileTree) (base : Location) (p : Path) : Except FileError (Location × Node) :=
  match tree.find base p true with
  | .ok (.node location node) => .ok (location, node)
  | .ok (.free _) => .error .missing
  | .error e => .error e

/-- A name or path that is too long is the only error that a question does not answer with "no". -/
def askWhether (p : Node → Bool) : Except FileError (Location × Node) → Except FileError Bool
  | .ok (_, node) => .ok (p node)
  | .error .nameTooLong => .error .nameTooLong
  | .error _ => .ok false

def isDirectory (tree : FileTree) (base : Location) (p : Path) : Except FileError Bool :=
  askWhether (fun | .directory => true | _ => false) (tree.lookup base p)

def isFile (tree : FileTree) (base : Location) (p : Path) : Except FileError Bool :=
  askWhether (fun | .file _ => true | _ => false) (tree.lookup base p)

def pathExists (tree : FileTree) (base : Location) (p : Path) : Except FileError Bool :=
  askWhether (fun _ => true) (tree.lookup base p)

/-- Does the text of a path, as it stands, lead to something? A slash at its end asks for a
directory. -/
def leadsSomewhere (tree : FileTree) (base : Location) (t : Text) : Bool :=
  let path := Path.ofText t
  if !isSystemText t || pathLimit < systemLength t then false
  else
    match tree.lookup base path with
    | .ok (_, .directory) => !t.isEmpty
    | .ok _ =>
      match (Text.piecesAt Path.slash t).getLast? with
      | some last => !(last.isEmpty || last == ".")
      | none => false
    | .error _ => false

/-! ## Reading and opening -/

def read (tree : FileTree) (base : Location) (p : Path) : Except FileError Utf8.Bytes :=
  match tree.lookup base p with
  | .ok (_, .file (.bytes bytes)) => .ok bytes
  | .ok (_, .file (.locked error)) => .error error
  | .ok _ => .error .isDirectory
  | .error e => .error e

/-- Opens a file for writing, empty. Without `overwrite` the name has to be free, even of a link
that leads nowhere. -/
def openForWriting (tree : FileTree) (base : Location) (p : Path) (overwrite : Bool) :
    Except FileError (Location × FileTree) :=
  match tree.find base p overwrite with
  | .error e => .error e
  | .ok (.free location) => .ok (location, tree.put location (.file (.bytes [])))
  | .ok (.node location node) =>
    if !overwrite then .error .present
    else
      match node with
      | .file (.bytes _) => .ok (location, tree.put location (.file (.bytes [])))
      | .file (.locked error) => .error error
      | _ => .error .isDirectory

/-- Puts bytes into a file at an offset. A gap between the end of the file and the offset is filled
with zeros. -/
def writeAt (tree : FileTree) (location : Location) (offset : Nat) (bytes : Utf8.Bytes) :
    FileTree :=
  match tree.node? location, bytes with
  | some (.file (.bytes _)), [] => tree
  | some (.file (.bytes old)), bytes =>
    let gap := List.replicate (offset - old.length) 0
    let new := old.take offset ++ gap ++ bytes ++ old.drop (offset + bytes.length)
    tree.put location (.file (.bytes new))
  | _, _ => tree

/-! ## Building -/

/-- All locations above one, the topmost first. -/
def ancestors (location : Location) : List Location :=
  (List.range location.length).map location.take

/-- Puts a node into the tree, with the directories above it. -/
def plant (tree : FileTree) (location : Location) (node : Node) : FileTree :=
  let tree := (ancestors location).foldl (fun tree above =>
    if (tree.node? above).isNone then tree.put above .directory else tree) tree
  tree.put location node

end FileTree

end Nomenclator

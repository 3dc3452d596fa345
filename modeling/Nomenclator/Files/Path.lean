import Nomenclator.Text.Quoted

/-!
# Paths

A path is a list of names below a root. Empty names and `.` are left out, `..` stays, because a link
may stand before it.
-/

namespace Nomenclator

/-- Two slashes at the start are a root of their own; any other number counts as one. -/
inductive PathRoot where
  | relative
  | absolute
  | twoSlashes
deriving DecidableEq, Repr

def PathRoot.text : PathRoot → Text
  | relative => []
  | absolute => "/"
  | twoSlashes => "//"

structure Path where
  root : PathRoot
  names : List Text
deriving DecidableEq, Repr

namespace Path

def slash : Rune := ⟨0x2F⟩

/-- The names in a path text that count. -/
def namesIn (t : Text) : List Text :=
  (Text.piecesAt slash t).filter fun name => !(name.isEmpty || name == ".")

def rootOf (t : Text) : PathRoot :=
  match (t.takeWhile (· == slash)).length with
  | 0 => .relative
  | 2 => .twoSlashes
  | _ => .absolute

def ofText (t : Text) : Path := ⟨rootOf t, namesIn t⟩

def toText (p : Path) : Text :=
  if p.root = .relative ∧ p.names = [] then "."
  else p.root.text ++ Text.join [slash] p.names

def name? (p : Path) : Option Text := p.names.getLast?

def child (p : Path) (name : Text) : Path := { p with names := p.names ++ [name] }

def descend (p : Path) (names : List Text) : Path := { p with names := p.names ++ names }

/-- A name without its last extension. A dot at the start or the end of a name begins none. -/
def stemOf (name : Text) : Text :=
  let tail := (name.reverse.takeWhile fun r => r.code != 0x2E).length
  let dot := name.length - tail - 1
  if 0 < tail ∧ tail < name.length ∧ 0 < dot then name.take dot else name

/-- The components by which paths are sorted. -/
def sortKey (p : Path) : List Text :=
  if p.root = .relative then p.names else p.root.text :: p.names

def le (p q : Path) : Bool := Text.leList p.sortKey q.sortKey

end Path

/-! ## Result files -/

def outputSuffix : Text := ".out.c"

/-- The path of the result file beside a listing; a path without a name has none. -/
def outputPath? (source : Path) : Option Path :=
  source.name?.map fun name =>
    { source with names := source.names.dropLast ++ [Path.stemOf name ++ outputSuffix] }

/-- What is said of a path without a name. -/
def noNameMessage (source : Path) : Text :=
  Text.concat ["PosixPath(", source.toText.quoted, ") has an empty name"]

end Nomenclator

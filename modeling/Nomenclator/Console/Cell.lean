import Nomenclator.Console.CellRanges
import Nomenclator.Text.Basic

/-!
# Cells

A console is a grid of cells. Text takes cells by the piece: a character together with the marks and
joined characters that are drawn on top of it. A piece is never cut.
-/

namespace Nomenclator

/-- The cells that a character takes by itself. -/
def Rune.cells (r : Rune) : Nat :=
  if r.code < 0x80 then if r.within 0x20 0x7E then 1 else 0
  else if r.code < 0xA0 then 0
  else if Console.zeroRanges.any fun (low, high) => r.within low high then 0
  else if Console.wideRanges.any fun (low, high) => r.within low high then 2
  else 1

namespace Console

/-- Joins the next character to the piece before it. -/
def joiner : Rune := ⟨0x200D⟩

/-- Asks for the character before it to be shown as a picture. -/
def pictureMark : Rune := ⟨0xFE0F⟩

/-- Does a character get wider when it is shown as a picture? -/
def widens (r : Rune) : Bool := pictureRanges.any fun (low, high) => r.within low high

structure Piece where
  text : Text
  cells : Nat
deriving DecidableEq, Repr

/-- Adds to the last of the pieces, which come in reverse. -/
def extendLast (more : Text) (cells : Nat) : List Piece → List Piece
  | [] => [⟨more, cells⟩]
  | piece :: before => ⟨piece.text ++ more, piece.cells + cells⟩ :: before

/-- The pieces of a text. `done` are those before it, in reverse; `last` is the last character that
took cells, unless it has been widened. -/
def piecesFrom (done : List Piece) (last : Option Rune) : Text → List Piece
  | [] => done.reverse
  | [r] =>
    if r = joiner then (extendLast [r] 0 done).reverse
    else if r = pictureMark then
      (extendLast [r] (if !done.isEmpty && last.any widens then 1 else 0) done).reverse
    else if r.cells = 0 then (extendLast [r] 0 done).reverse
    else (⟨[r], r.cells⟩ :: done).reverse
  | r :: next :: rest =>
    if r = joiner && !done.isEmpty then piecesFrom (extendLast [r, next] 0 done) last rest
    else if r = pictureMark && !done.isEmpty && last.any widens then
      piecesFrom (extendLast [r] 1 done) none (next :: rest)
    else if r = joiner || r = pictureMark || r.cells = 0 then
      piecesFrom (extendLast [r] 0 done) last (next :: rest)
    else piecesFrom (⟨[r], r.cells⟩ :: done) (some r) (next :: rest)

def pieces (t : Text) : List Piece := piecesFrom [] none t

/-- The sum of widths. -/
def totalWidth (widths : List Nat) : Nat := widths.foldl (· + ·) 0

def cellsOf (pieces : List Piece) : Nat := totalWidth (pieces.map Piece.cells)

def textOf (pieces : List Piece) : Text := pieces.flatMap Piece.text

/-! ## Measuring -/

/-- The cells that a text takes. A joiner at its start hides the character after it. -/
def cells : Text → Nat
  | [] => 0
  | [r] => cellsOf (pieces [r])
  | r :: next :: rest => if r = joiner then cells rest else cellsOf (pieces (r :: next :: rest))

/-! ## Cutting -/

/-- Why a text cannot be cut. A joiner at the start of a text hides one character from its measure,
but more from its pieces when another joiner follows, so pieces may fill fewer cells than the text
takes. -/
inductive CutError where
  | noCells
  | tooFewCells
deriving DecidableEq, Repr

def CutError.message : CutError → Text
  | noCells => "division by zero"
  | tooFewCells => "list index out of range"

/-- The first pieces that fill `room` cells, if there are enough. A piece that does not fit ends in
a blank. -/
def takePieces? (room : Nat) : List Piece → Option Text
  | [] => if room = 0 then some [] else none
  | piece :: rest =>
    if room = 0 then some []
    else if piece.cells ≤ room then
      (takePieces? (room - piece.cells) rest).map fun taken => piece.text ++ taken
    else some [⟨0x20⟩]

def takeCells (room : Nat) (t : Text) : Except CutError Text :=
  match takePieces? room (pieces t) with
  | some taken => .ok taken
  | none => .error (if cellsOf (pieces t) = 0 then .noCells else .tooFewCells)

/-- Cuts or pads a text so that it takes `room` cells. -/
def fit (room : Nat) (t : Text) : Except CutError Text :=
  let size := cells t
  if size ≤ room then .ok (t ++ Text.blanks (room - size)) else takeCells room t

/-- Cuts a text that takes more than `room` cells. -/
def crop (room : Nat) (t : Text) : Except CutError Text :=
  if cells t ≤ room then .ok t else takeCells room t

/-- Folds pieces into lines of `room` cells. `line` holds the pieces of the line so far, in reverse,
and `used` the cells they take. -/
def foldPieces (room : Nat) (line : List Piece) (used : Nat) : List Piece → List Text
  | [] => if used = 0 then [] else [textOf line.reverse]
  | piece :: rest =>
    if room < used + piece.cells then
      textOf line.reverse :: foldPieces room [piece] piece.cells rest
    else foldPieces room (piece :: line) (used + piece.cells) rest

/-- Folds a text into lines of `room` cells. -/
def fold (room : Nat) (t : Text) : List Text := foldPieces room [] 0 (pieces t)

end Console

end Nomenclator

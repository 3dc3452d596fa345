import Nomenclator.Console.Print
import Nomenclator.Number.Binary64

/-!
# Tables

A table has a title, a header and rows of one line each, drawn with box characters. If it is wider
than the console, its columns are narrowed, the widest first, and cells that no longer fit are cut.
-/

namespace Nomenclator.Console

structure Column where
  header : Text
  alignment : Alignment
deriving DecidableEq, Repr

structure Table where
  title : Text
  columns : List Column
  rows : List (List Text)
deriving DecidableEq, Repr

namespace Table

/-! ## Widths -/

/-- The blanks beside the text of a cell, one on each side. -/
def padding : Nat := 2

/-- The cells that the lines between and around the columns take. -/
def borders (table : Table) : Nat := table.columns.length + 1

/-- The texts of a column, header first. -/
def columnTexts (table : Table) : List (List Text) :=
  table.columns.zipIdx.map fun (column, i) =>
    column.header :: table.rows.map fun row => row.getD i []

/-- The width that a column asks for when `room` cells are left to it. A room without space for text
is taken as a whole. -/
def wanted (room : Nat) (texts : List Text) : Nat :=
  (texts.map fun t => if room ≤ padding then room else min (cells t + padding) room).foldl max 0

/-- Takes up to `total` away from the widths. Each width bears a share by its weight, rounded to the
nearest whole, a half to the even one, and gives at most what its limit says. -/
def share (total weightLeft : Nat) : List (Nat × Nat × Nat) → List Nat
  | [] => []
  | (weight, limit, width) :: rest =>
    if weight = 0 ∨ weightLeft = 0 then width :: share total weightLeft rest
    else
      let part := min limit (roundDiv (weight * total) weightLeft)
      (width - part) :: share (total - part) (weightLeft - weight) rest

/-- Takes `total` away from widths; those with a limit of zero are left alone. -/
def reduce (total : Nat) (widths : List (Nat × Nat × Nat)) : List Nat :=
  let weighted := widths.map fun (weight, limit, width) =>
    (if limit = 0 then 0 else weight, limit, width)
  let sum := totalWidth (weighted.map (·.1))
  if sum = 0 then widths.map (·.2.2) else share total sum weighted

/-- Narrows the widest columns down to the next widest, again and again, until the widths fit into
`room`. -/
def collapse (fuel room : Nat) (widths : List Nat) : List Nat :=
  match fuel with
  | 0 => widths
  | fuel + 1 =>
    let excess := totalWidth widths - room
    if excess = 0 then widths
    else
      let widest := widths.foldl max 0
      let next := (widths.filter (· != widest)).foldl max 0
      let step := min excess (widest - next)
      collapse fuel room
        (reduce excess (widths.map fun w => (if w = widest then 1 else 0, step, w)))

/-- The widths of the columns on a console. -/
def widths (table : Table) (consoleWidth : Nat) : List Nat :=
  let room := consoleWidth - table.borders
  let texts := table.columnTexts
  let first := texts.map fun column => max 1 (wanted room column)
  if totalWidth first ≤ room then first
  else
    let narrowed := collapse (totalWidth first + 1) room first
    let narrowed :=
      if totalWidth narrowed ≤ room then narrowed
      else reduce (totalWidth narrowed - room) (narrowed.map fun w => (1, w, w))
    (texts.zip narrowed).map fun (column, width) => wanted width column

/-! ## Drawing -/

/-- The characters of a horizontal line: its left end, its stroke, its crossings, its right end. -/
structure Rule where
  left : Rune
  stroke : Rune
  crossing : Rune
  right : Rune

def topRule : Rule := ⟨'┏', '━', '┳', '┓'⟩

def headRule : Rule := ⟨'┡', '━', '╇', '┩'⟩

def bottomRule : Rule := ⟨'└', '─', '┴', '┘'⟩

def Rule.draw (rule : Rule) (widths : List Nat) : Text :=
  rule.left :: Text.join [rule.crossing] (widths.map fun w => List.replicate w rule.stroke) ++
    [rule.right]

/-- The text of a cell with its padding; a column too narrow for both is blank. -/
def cell (alignment : Alignment) (width : Nat) (t : Text) : Except CutError Text :=
  if width ≤ padding then .ok (Text.blanks width)
  else do
    let lines ← setText alignment .ellipsis (width - padding) t []
    return ⟨0x20⟩ :: (lines.map Strip.text).headD [] ++ [⟨0x20⟩]

def drawRow (bar : Rune) (columns : List Column) (widths : List Nat) (row : List Text) :
    Except CutError Text := do
  let cells ← (columns.zip (widths.zip row)).mapM fun (column, width, t) =>
    cell column.alignment width t
  return bar :: Text.join [bar] cells ++ [bar]

/-- The lines of a table on a console. -/
def draw (table : Table) (consoleWidth : Nat) : Except CutError (List Text) := do
  let widths := table.widths consoleWidth
  let width := totalWidth widths + table.borders
  let row (bar : Rune) (texts : List Text) := drawRow bar table.columns widths texts
  let title ← setText .left .fold width table.title []
  let header ← row '┃' (table.columns.map Column.header)
  let rows ← table.rows.mapM (row '│')
  let lines :=
    title.map Strip.text ++ [topRule.draw widths, header, headRule.draw widths] ++ rows ++
      [bottomRule.draw widths]
  lines.mapM (crop consoleWidth)

end Table

end Nomenclator.Console

import Nomenclator.Console.Strip
import Nomenclator.Text.Blank

/-!
# Lines

Text is set in lines of limited width. Breaks go between words; a word that is wider than a line is
folded over several. Blanks stay where they are, except those that stick out at the end of a line.
-/

namespace Nomenclator.Console

/-! ## Words -/

/-- The words of a text, each with the blanks after it, the first also with those before it. A text
without words has none. -/
def words (s : Text) : List Text :=
  match s with
  | [] => []
  | r :: rest =>
    let before := (r :: rest).takeWhile Rune.isBlank
    let word := ((r :: rest).drop before.length).takeWhile fun c => !c.isBlank
    let after := ((r :: rest).drop (before.length + word.length)).takeWhile Rune.isBlank
    if word.isEmpty then []
    else
      (before ++ word ++ after) ::
        words (rest.drop (before.length + word.length + after.length - 1))
termination_by s.length
decreasing_by simp only [List.length_drop, List.length_cons]; omega

/-! ## Breaking -/

/-- A text that is being set: the lines before the current one in reverse, the current one, and the
cells used of it. -/
structure Setting where
  done : List Text
  line : Text
  used : Nat

namespace Setting

def empty : Setting := ⟨[], [], 0⟩

/-- Puts text on a line of its own, unless there is nothing before it. -/
def breakBefore (s : Setting) (piece : Text) (used : Nat) : Setting :=
  if s.done.isEmpty && s.line.isEmpty then ⟨[], piece, used⟩ else ⟨s.line :: s.done, piece, used⟩

def lines (s : Setting) : List Text := (s.line :: s.done).reverse

/-- Adds a word to the current line if it fits, without the blanks after it. One that fits on no
line is folded from a new line on, if `folds` allows it and it has pieces that take cells. -/
def add (width : Nat) (folds : Bool) (s : Setting) (word : Text) : Setting :=
  let size := cells word.stripEnd
  if s.used + size ≤ width then ⟨s.done, s.line ++ word, s.used + cells word⟩
  else if size ≤ width then s.breakBefore word (cells word)
  else if folds then
    match fold width word with
    | [] => ⟨s.done, s.line ++ word, s.used⟩
    | pieces => pieces.foldl (fun s piece => s.breakBefore piece (cells piece)) s
  else s.breakBefore word (cells word)

end Setting

/-- The lines of a text without line feeds. A text without words is one line. -/
def breakLine (width : Nat) (folds : Bool) (t : Text) : List Text :=
  match words t with
  | [] => [t]
  | ws => (ws.foldl (Setting.add width folds) Setting.empty).lines

/-- Drops blanks at the end as far as the line has more than `width` characters. -/
def dropExcess (width : Nat) (line : Strip) : Strip :=
  let tail := (line.text.reverse.takeWhile Rune.isBlank).length
  line.withText (line.text.take (line.text.length - min tail (line.text.length - width)))

/-! ## Tabs -/

/-- Expands tabs to multiples of `step` cells; `chunk` is the text since the last tab, and `column`
the cells before it. -/
def expandTabsFrom (step column : Nat) (chunk : Text) : Text → Text
  | [] => chunk
  | r :: rest =>
    if r.code = 0x09 then
      let reached := column + cells (chunk ++ [⟨0x20⟩])
      let spaces := (step - reached % step) % step
      chunk ++ Text.blanks (1 + spaces) ++ expandTabsFrom step (reached + spaces) [] rest
    else expandTabsFrom step column (chunk ++ [r]) rest

def tabStep : Nat := 8

/-- A line with its tabs expanded. Its seams move along. -/
def expandTabs (line : Strip) : Strip :=
  let expanded (t : Text) : Text := expandTabsFrom tabStep 0 [] t
  if line.text.any fun r => r.code == 0x09 then
    ⟨expanded line.text, line.seams.map fun n => (expanded (line.text.take n)).length⟩
  else line

/-! ## Setting text -/

/-- Where the text of a line goes when the line is wider. -/
inductive Alignment where
  /-- The line is as wide as its text. -/
  | natural
  | left
  | right
deriving DecidableEq, Repr

/-- What happens to a word that is wider than a line. -/
inductive Overflow where
  | fold
  /-- The word is cut and ends in an ellipsis. -/
  | ellipsis
deriving DecidableEq, Repr

def ellipsis : Rune := ⟨0x2026⟩

def cut (overflow : Overflow) (width : Nat) (line : Strip) : Except CutError Strip :=
  if cells line.text ≤ width then .ok line
  else
    match overflow with
    | .fold => (takeCells width line.text).map line.withText
    | .ellipsis => (fit (width - 1) line.text).map fun t => line.withText (t ++ [ellipsis])

/-- Brings a line to its place. What it is padded with is a stretch of its own. -/
def align (alignment : Alignment) (overflow : Overflow) (width : Nat) (line : Strip) :
    Except CutError Strip :=
  match alignment with
  | .natural => .ok line
  | .left =>
    if cells line.text < width then
      let blanks := Text.blanks (width - cells line.text)
      .ok ⟨line.text ++ blanks, line.seams ++ [line.text.length]⟩
    else cut overflow width line
  | .right =>
    (cut overflow width (line.withText line.text.stripEnd)).map fun line =>
      let blanks := Text.blanks (width - cells line.text)
      ⟨blanks ++ line.text, line.seams.map (· + blanks.length)⟩

/-- The lines in which a line without line feeds is set. -/
def setLine (alignment : Alignment) (overflow : Overflow) (width : Nat) (line : Strip) :
    Except CutError (List Strip) := do
  let line := expandTabs line
  let lines := Strip.ofParts 0 0 line.seams (breakLine width (overflow == .fold) line.text)
  let lines ← (lines.map (dropExcess width)).mapM (align alignment overflow width)
  lines.mapM (cut overflow width)

/-- The lines in which a text with these seams is set. -/
def setText (alignment : Alignment) (overflow : Overflow) (width : Nat) (t : Text)
    (seams : List Nat) : Except CutError (List Strip) :=
  ((Strip.ofParts 1 0 seams t.lines).mapM (setLine alignment overflow width)).map List.flatten

end Nomenclator.Console

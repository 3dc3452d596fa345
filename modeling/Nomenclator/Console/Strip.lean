import Nomenclator.Console.Cell

/-!
# Strips

A console writes a line in stretches, each in a style of its own, and measures it stretch by
stretch. A mark at the start of a stretch does not reach back into the one before it.
-/

namespace Nomenclator.Console

/-- Text without joiners and picture marks has the same measure however it is divided. -/
def measuresEvenly (t : Text) : Bool := !t.any fun r => r == joiner || r == pictureMark

/-- A part of a text that has a style, from one offset to another. -/
structure Span where
  start : Nat
  stop : Nat
deriving DecidableEq, Repr

/-- The offsets behind the tabs of a text that starts at `offset`. -/
def tabStops (offset : Nat) : Text → List Nat
  | [] => []
  | r :: rest =>
    if r.code = 0x09 then (offset + 1) :: tabStops (offset + 1) rest
    else tabStops (offset + 1) rest

/-- Where stretches end in a text with these spans. A tab ends a stretch if it has a style. -/
def seamsOf (t : Text) (spans : List Span) : List Nat :=
  spans.flatMap (fun s => [s.start, s.stop]) ++
    (tabStops 0 t).filter fun n => spans.any fun s => s.start < n && n < s.stop

/-- The seams of a larger text that lie within a part of it, counted from the start of the part. -/
def seamsWithin (start length : Nat) (seams : List Nat) : List Nat :=
  seams.filterMap fun n => if start < n ∧ n < start + length then some (n - start) else none

/-- A line, and the places where one stretch ends and the next begins. -/
structure Strip where
  text : Text
  seams : List Nat
deriving DecidableEq, Repr

namespace Strip

/-- Parts of a text that follow one another, with `gap` characters between each two. -/
def ofParts (gap start : Nat) (seams : List Nat) : List Text → List Strip
  | [] => []
  | t :: rest =>
    ⟨t, seamsWithin start t.length seams⟩ :: ofParts gap (start + t.length + gap) seams rest

/-- Puts another text in place of the line; what is not there any more has no seams. -/
def withText (s : Strip) (t : Text) : Strip := ⟨t, s.seams.filter (· < t.length)⟩

/-- Divides the rest of a text at its seams; `chunk` holds the characters of the current stretch,
the last first. -/
def divide (seams : List Nat) (offset : Nat) (chunk : Text) : Text → List Text
  | [] => [chunk.reverse]
  | r :: rest =>
    if seams.contains offset then chunk.reverse :: divide seams (offset + 1) [r] rest
    else divide seams (offset + 1) (r :: chunk) rest

def stretches (s : Strip) : List Text := divide s.seams 0 [] s.text

end Strip

/-! ## Stretches -/

def stretchCells (stretches : List Text) : Nat := totalWidth (stretches.map cells)

/-- The first stretches that fit into `room` cells; the one that does not is cut. -/
def takeStretches (room : Nat) : List Text → Except CutError (List Text)
  | [] => .ok []
  | t :: rest =>
    if cells t < room then (takeStretches (room - cells t) rest).map (t :: ·)
    else (fit room t).map ([·])

/-- Cuts stretches that take more than `room` cells. -/
def cropStretches (room : Nat) (stretches : List Text) : Except CutError (List Text) :=
  if stretchCells stretches ≤ room then .ok stretches else takeStretches room stretches

/-- Cuts or pads stretches so that they take `room` cells. -/
def fitStretches (room : Nat) (stretches : List Text) : Except CutError (List Text) :=
  let size := stretchCells stretches
  if size ≤ room then .ok (stretches ++ [Text.blanks (room - size)])
  else takeStretches room stretches

end Nomenclator.Console

import Nomenclator.Comment.Chunk
import Nomenclator.Text.Blank

/-!
# Filling lines

A paragraph is broken into lines of limited width. Chunks go on a line as long as they fit; one that
fits on no line is cut. Blanks at the ends of lines are dropped, those before the first word stay.
-/

namespace Nomenclator.Fill

/-- The chunks that fit into `room`, and the others. -/
def takeFitting (room : Int) : List Text → List Text × List Text
  | [] => ([], [])
  | chunk :: rest =>
    if chunk.length ≤ room then
      let (line, others) := takeFitting (room - chunk.length) rest
      (chunk :: line, others)
    else ([], chunk :: rest)

/-- The last hyphen in a text, by its position. -/
def lastHyphen? (t : Text) : Option Nat :=
  let tail := (t.reverse.takeWhile fun r => !Chunk.isHyphen r).length
  if tail < t.length then some (t.length - tail - 1) else none

/-- Where to cut a chunk that is too long for any line: behind the last hyphen that fits, if
something else than hyphens stands before it, else where the room ends. -/
def cutPoint (chunk : Text) (room : Nat) : Nat :=
  match lastHyphen? (chunk.take room) with
  | some i =>
    if room < chunk.length ∧ 0 < i ∧ (chunk.take i).any (fun r => !Chunk.isHyphen r) then i + 1
    else room
  | none => room

/-- The chunks for a line of `width` characters, and the chunks left. A chunk longer than the line
fills up what room there is; a line without room takes one character. -/
def takeLine (width : Int) (chunks : List Text) : List Text × List Text :=
  match takeFitting width chunks with
  | (line, chunk :: rest) =>
    if width < chunk.length then
      let room := if width < 1 then 1 else (width - line.flatten.length).toNat
      let n := cutPoint chunk room
      (line ++ [chunk.take n], chunk.drop n :: rest)
    else (line, chunk :: rest)
  | whole => whole

def dropBlankHead : List Text → List Text
  | chunk :: rest => if Text.isBlank chunk then rest else chunk :: rest
  | [] => []

def dropBlankLast (chunks : List Text) : List Text := (dropBlankHead chunks.reverse).reverse

/-- How much there is left to place: characters and chunks. -/
def weight (chunks : List Text) : Nat := chunks.flatten.length + chunks.length

/-- The lines that hold `chunks`, each `width` wide at most; `started` tells whether there is a line
already. A width that takes nothing ends the text. -/
def lines (width : Int) (started : Bool) (chunks : List Text) : List Text :=
  match chunks with
  | [] => []
  | chunk :: rest =>
    let trimmed := if started then dropBlankHead (chunk :: rest) else chunk :: rest
    let (line, left) := takeLine width trimmed
    let line := dropBlankLast line
    if weight left < weight (chunk :: rest) then
      if line.isEmpty then lines width started left
      else line.flatten :: lines width true left
    else if line.isEmpty then [] else [line.flatten]
termination_by weight chunks

/-- A paragraph with `margin` before each line, in lines of `width` characters. -/
def paragraph (width : Int) (margin text : Text) : Text :=
  Text.join [⟨0x0A⟩]
    ((lines (width - margin.length) false (Chunk.ofText text)).map (margin ++ ·))

end Nomenclator.Fill

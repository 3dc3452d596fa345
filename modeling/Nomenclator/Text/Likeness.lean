import Nomenclator.Text.Basic

/-!
# Likeness

How much two texts have in common: the longest block that occurs in both, and the blocks in common
on either side of it. A mistyped name is close to the one that was meant.
-/

namespace Nomenclator.Text

/-- The length of the longest common beginning. -/
def commonHead : Text → Text → Nat
  | a :: s, b :: t => if a = b then commonHead s t + 1 else 0
  | _, _ => 0

/-- A block that two texts have in common, by its start in each and its length. -/
structure CommonBlock where
  left : Nat
  right : Nat
  length : Nat
deriving DecidableEq, Repr

/-- The longest block in common; of several the leftmost in `s`, then in `t`. -/
def longestBlock (s t : Text) : CommonBlock :=
  let blocks := (List.range s.length).flatMap fun i =>
    (List.range t.length).map fun j => (⟨i, j, commonHead (s.drop i) (t.drop j)⟩ : CommonBlock)
  blocks.foldl (fun best block => if best.length < block.length then block else best) ⟨0, 0, 0⟩

/-- The length of all blocks in common, the longest taken first. -/
def commonLength (s t : Text) : Nat :=
  match longestBlock s t with
  | ⟨i, j, n⟩ =>
    if _h : 0 < n ∧ i < s.length then
      commonLength (s.take i) (t.take j) + n + commonLength (s.drop (i + n)) (t.drop (j + n))
    else 0
termination_by s.length
decreasing_by
  all_goals simp only [List.length_take, List.length_drop]
  all_goals omega

/-- Two texts are close when at least three fifths of their characters are in common. Texts of very
different lengths cannot be, which saves the comparison. -/
def isClose (s t : Text) : Bool :=
  let least := 3 * (s.length + t.length)
  least ≤ 10 * min s.length t.length && least ≤ 10 * commonLength s t

/-- The most that is offered in place of a mistyped name. -/
def closestLimit : Nat := 3

/-- The names closest to `word`, the closest first; of equally close ones the later in order. -/
def closest (word : Text) (names : List Text) : List Text :=
  let size (name : Text) : Nat := name.length + word.length
  let closer (a b : Text) : Bool :=
    let x := commonLength a word * size b
    let y := commonLength b word * size a
    y < x || (x == y && le b a)
  ((names.filter fun name => isClose name word).mergeSort closer).take closestLimit

end Nomenclator.Text

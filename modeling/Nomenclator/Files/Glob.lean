import Nomenclator.Text.Basic

/-!
# Name patterns with wildcards

`*` stands for any characters, `?` for one, and a set in brackets for one of its members; a set that
opens with `!` is meant the other way round, and a bracket that is never closed stands for itself.
-/

namespace Nomenclator.Glob

/-- Is a character a member of a set? A hyphen between two characters makes a range. -/
def inSet (set : Text) (r : Rune) : Bool :=
  match set with
  | low :: ⟨0x2D⟩ :: high :: rest => r.within low.code high.code || inSet rest r
  | member :: rest => r == member || inSet rest r
  | [] => false

/-- A set without the ranges at its start that hold nothing, because their ends are in the wrong
order. A mark at the start begins no range. -/
def dropEmptyRanges : Text → Text
  | low :: ⟨0x2D⟩ :: high :: rest =>
    if high.code < low.code ∧ low.code ≠ 0x21 then dropEmptyRanges rest
    else low :: ⟨0x2D⟩ :: high :: rest
  | set => set

/-- The set after an opening bracket and what follows the closing one. A closing bracket right at
the start, or behind `!`, belongs to the set. -/
def takeSet? (pattern : Text) : Option (Text × Text) :=
  let (mark, body) : Text × Text :=
    match pattern with
    | ⟨0x21⟩ :: rest => ([⟨0x21⟩], rest)
    | rest => ([], rest)
  match body with
  | [] => none
  | first :: rest =>
    match rest.dropWhile (fun r => r.code != 0x5D) with
    | _ :: after => some (mark ++ first :: rest.takeWhile (fun r => r.code != 0x5D), after)
    | [] => none

/-- Is a character one that a set stands for? -/
def allows (set : Text) (r : Rune) : Bool :=
  match dropEmptyRanges set with
  | ⟨0x21⟩ :: members => !inSet members r
  | members => inSet members r

/-- Does the whole name match the pattern? -/
def covers (pattern name : Text) : Bool :=
  match pattern with
  | [] => name.isEmpty
  | ⟨0x2A⟩ :: rest =>
    covers rest name ||
      match name with
      | [] => false
      | _ :: name => covers (⟨0x2A⟩ :: rest) name
  | p :: rest =>
    match name with
    | [] => false
    | r :: name =>
      if p.code = 0x3F then covers rest name
      else if p.code = 0x5B then
        match takeSet? rest with
        | some (set, after) => allows set r && covers after name
        | none => r == p && covers rest name
      else r == p && covers rest name
termination_by (name.length, pattern.length)

end Nomenclator.Glob

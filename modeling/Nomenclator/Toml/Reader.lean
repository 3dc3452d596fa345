import Nomenclator.Toml.Node
import Nomenclator.Toml.Scalar

/-!
# TOML documents

A document is a sequence of lines: headings and assignments, with comments and empty lines between
them.
-/

namespace Nomenclator.Toml

/-! ## Keys -/

def isBareKeyRune (r : Rune) : Bool :=
  r.isAsciiLetter || r.isAsciiDigit || r == '-' || r == '_'

def readKeyPart (s : Text) : Except Stop (Text × Text) :=
  match s with
  | ⟨0x22⟩ :: rest => readBasic false rest
  | ⟨0x27⟩ :: rest => readLiteral false rest
  | _ =>
    match s.takeWhile isBareKeyRune with
    | [] => .error .malformed
    | part => .ok (part, s.dropWhile isBareKeyRune)

/-- A key of at most `fuel` parts, with blanks allowed around the dots. -/
def readKey (fuel : Nat) (s : Text) : Except Stop (List Text × Text) :=
  match fuel with
  | 0 => .error .malformed
  | fuel + 1 =>
    match readKeyPart s with
    | .error stop => .error stop
    | .ok (part, rest) =>
      match skipSpaces rest with
      | ⟨0x2E⟩ :: after =>
        (readKey fuel (skipSpaces after)).map fun (parts, rest) => (part :: parts, rest)
      | rest => .ok ([part], rest)

/-! ## Values -/

/-- Skips blanks, line feeds and comments; `inComment` tells whether a comment has begun. -/
def skipGaps (inComment : Bool) : Text → Except Stop Text
  | [] => .ok []
  | r :: rest =>
    if inComment then
      if isLineFeed r then skipGaps false rest
      else if isForbidden r then .error .malformed
      else skipGaps true rest
    else if isGap r then skipGaps false rest
    else if r = '#' then skipGaps true rest
    else .ok (r :: rest)

/-- How much nesting a document may have, and how much of it each bracket and brace takes. -/
def nestingLimit : Nat := 960

def listCost : Nat := 2

def tableCost : Nat := 3

mutual

/-- The value at the start of a text. Every call takes a unit of `fuel`; `room` is what is left for
nesting. -/
def readValue (fuel room : Nat) (s : Text) : Except Stop (Value × Text) :=
  match fuel with
  | 0 => .error .malformed
  | fuel + 1 =>
    match s with
    | ⟨0x5B⟩ :: rest =>
    if room < listCost then .error .tooDeep else readItems fuel (room - listCost) [] rest
    | ⟨0x7B⟩ :: rest =>
      if room < tableCost then .error .tooDeep
      else
        match skipSpaces rest with
        | ⟨0x7D⟩ :: after => .ok (.table [], after)
        | inner => readMembers fuel (room - tableCost) [] inner
    | _ => readScalar s

/-- The items of a list up to its closing bracket; a comma may stand after the last one. -/
def readItems (fuel room : Nat) (items : List Value) (s : Text) : Except Stop (Value × Text) :=
  match fuel with
  | 0 => .error .malformed
  | fuel + 1 =>
    match skipGaps false s with
    | .error stop => .error stop
    | .ok (⟨0x5D⟩ :: after) => .ok (.list items.reverse, after)
    | .ok inner =>
      match readValue fuel room inner with
      | .error stop => .error stop
      | .ok (item, rest) =>
        match skipGaps false rest with
        | .ok (⟨0x5D⟩ :: after) => .ok (.list (item :: items).reverse, after)
        | .ok (⟨0x2C⟩ :: after) => readItems fuel room (item :: items) after
        | _ => .error .malformed

/-- The members of a table in braces up to its closing brace. -/
def readMembers (fuel room : Nat) (entries : Entries Node) (s : Text) :
    Except Stop (Value × Text) :=
  match fuel with
  | 0 => .error .malformed
  | fuel + 1 =>
    match readKey fuel s with
    | .ok (key, ⟨0x3D⟩ :: rest) =>
      match readValue fuel room (skipSpaces rest) with
      | .error stop => .error stop
      | .ok (value, rest) =>
        match Node.assign 0 value key entries with
        | none => .error .malformed
        | some entries =>
          match skipSpaces rest with
          | ⟨0x7D⟩ :: after => .ok (.table (Node.toEntries entries), after)
          | ⟨0x2C⟩ :: after => readMembers fuel room entries (skipSpaces after)
          | _ => .error .malformed
    | _ => .error .malformed

end

/-- Fuel that suffices for a text: no call leaves more of it to the next two. -/
def fuelFor (s : Text) : Nat := 2 * s.length + 2

/-! ## Lines -/

/-- What has been read so far: the tables, the path of the last heading, and how many headings there
were. -/
structure Draft where
  tables : Entries Node
  heading : List Text
  parts : Nat

def Draft.empty : Draft := ⟨[], [], 0⟩

/-- The rest of a line after a statement holds nothing but a comment. The answer is the text from
the line feed on. -/
def endLine (s : Text) : Except Stop Text :=
  match skipSpaces s with
  | [] => .ok []
  | ⟨0x0A⟩ :: rest => .ok (⟨0x0A⟩ :: rest)
  | ⟨0x23⟩ :: rest =>
    if (rest.takeWhile fun r => !isLineFeed r).any isForbidden then .error .malformed
    else .ok (rest.dropWhile fun r => !isLineFeed r)
  | _ => .error .malformed

/-- Enters a heading; `opens` is what happens to the last part of its path. -/
def Draft.enter (draft : Draft) (path : List Text)
    (opens : Text → Entries Node → Option (Entries Node)) : Option Draft := do
  let last ← path.getLast?
  let tables ← Node.within (opens last) path.dropLast draft.tables
  return ⟨tables, path, draft.parts + 1⟩

def Draft.assign (draft : Draft) (key : List Text) (value : Value) : Option Draft := do
  let tables ← Node.within (Node.assign draft.parts value key) draft.heading draft.tables
  return { draft with tables }

/-- A heading in `brackets`, after the opening ones. -/
def readHeading (draft : Draft) (brackets : Text)
    (opens : Text → Entries Node → Option (Entries Node)) (s : Text) :
    Except Stop (Draft × Text) :=
  match readKey (s.length + 1) (skipSpaces s) with
  | .error stop => .error stop
  | .ok (path, rest) =>
    match draft.enter path opens with
    | none => .error .malformed
    | some draft =>
      if brackets.isPrefixOf rest then .ok (draft, rest.drop brackets.length) else .error .malformed

def readAssignment (draft : Draft) (s : Text) : Except Stop (Draft × Text) :=
  match readKey (s.length + 1) s with
  | .ok (key, ⟨0x3D⟩ :: rest) =>
    match readValue (fuelFor rest) nestingLimit (skipSpaces rest) with
    | .error stop => .error stop
    | .ok (value, rest) =>
      match draft.assign key value with
      | none => .error .malformed
      | some draft => .ok (draft, rest)
  | .ok _ => .error .malformed
  | .error stop => .error stop

def readStatement (draft : Draft) (s : Text) : Except Stop (Draft × Text) :=
  match s with
  | ⟨0x5B⟩ :: ⟨0x5B⟩ :: rest => readHeading draft "]]" Node.appendTable rest
  | ⟨0x5B⟩ :: rest => readHeading draft "]" Node.openTable rest
  | _ => readAssignment draft s

/-- Reads line after line. -/
def readLines (fuel : Nat) (draft : Draft) (s : Text) : Except Stop Draft :=
  match fuel with
  | 0 => .error .malformed
  | fuel + 1 =>
    match skipSpaces s with
    | [] => .ok draft
    | ⟨0x0A⟩ :: rest => readLines fuel draft rest
    | ⟨0x23⟩ :: rest =>
      match endLine (⟨0x23⟩ :: rest) with
      | .error stop => .error stop
      | .ok rest => readLines fuel draft rest
    | line =>
      match readStatement draft line with
      | .error stop => .error stop
      | .ok (draft, rest) =>
        match endLine rest with
        | .error stop => .error stop
        | .ok rest => readLines fuel draft rest

/-- A carriage return counts only in front of a line feed, and is dropped there. -/
def joinLineEnds : Text → Text
  | ⟨0x0D⟩ :: ⟨0x0A⟩ :: rest => ⟨0x0A⟩ :: joinLineEnds rest
  | r :: rest => r :: joinLineEnds rest
  | [] => []

/-- The table that a document spells. -/
def decode (s : Text) : Except Stop (Entries Value) :=
  let s := joinLineEnds s
  (readLines (s.length + 2) Draft.empty s).map fun draft => Node.toEntries draft.tables

end Nomenclator.Toml

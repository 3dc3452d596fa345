import Nomenclator.Text.Blank
import Nomenclator.Value.Basic

/-!
# Environment files

A file of `NAME=value` lines. A name may stand in apostrophes and behind the word `export`; a value
may be quoted, over several lines if need be. A statement that makes no sense is skipped up to the
end of its line. Values refer to variables as `${NAME}` or `${NAME:-default}`.
-/

namespace Nomenclator.EnvFile

/-! ## Statements -/

inductive Statement where
  | blank
  | bind (name : Text) (value : Option Text)
  /-- A statement that makes no sense, with the line where it starts. -/
  | malformed (line : Nat)
deriving DecidableEq, Repr

def isLineEnd (r : Rune) : Bool := r.isLineFeed || r.code == 0x0D

/-- White space within a line. -/
def isInlineBlank (r : Rune) : Bool := r.isBlank && !isLineEnd r

def skipInline (s : Text) : Text := s.dropWhile isInlineBlank

def skipLine (s : Text) : Text :=
  match s.dropWhile fun r => !isLineEnd r with
  | _ :: rest => rest
  | [] => []

/-- The word `export` counts only with white space behind it. -/
def skipExport (s : Text) : Text :=
  if (Text.ofString "export").isPrefixOf s then
    let rest := s.drop 6
    if rest.head?.any isInlineBlank then skipInline rest else s
  else s

/-- A name and the text after it, or the text that is left when there is none. -/
def takeName (s : Text) : Except Text (Text × Text) :=
  match s with
  | ⟨0x27⟩ :: rest =>
    let name := rest.takeWhile fun r => !r.isApostrophe
    match rest.dropWhile fun r => !r.isApostrophe with
    | _ :: after => if name.isEmpty then .error s else .ok (name, after)
    | [] => .error s
  | _ =>
    let inName (r : Rune) : Bool := !(r.isBlank || r.code == 0x3D || r.code == 0x23)
    match s.takeWhile inName with
    | [] => .error s
    | name => .ok (name, s.dropWhile inName)

/-! ## Values -/

/-- The text up to the first mark, and what follows the mark. A backslash hides the character after
it. -/
def takeToMark? (mark : Rune) : Text → Option (Text × Text)
  | [] => none
  | ⟨0x5C⟩ :: r :: rest =>
    (takeToMark? mark rest).map fun (content, after) => (⟨0x5C⟩ :: r :: content, after)
  | r :: rest =>
    if r = mark then some ([], rest)
    else (takeToMark? mark rest).map fun (content, after) => (r :: content, after)

/-- The text up to the last mark, and what follows it. -/
def takeToLastMark? (mark : Rune) : Text → Option (Text × Text)
  | [] => none
  | r :: rest =>
    match takeToLastMark? mark rest with
    | some (content, after) => some (r :: content, after)
    | none => if r = mark then some ([], rest) else none

/-- Quoted text ends at the first mark that no backslash hides; if there is none, at the last. -/
def takeQuoted? (mark : Rune) (s : Text) : Option (Text × Text) :=
  takeToMark? mark s <|> takeToLastMark? mark s

/-- Replaces the escapes that `meaning` knows. -/
def unescape (meaning : Rune → Option Rune) : Text → Text
  | ⟨0x5C⟩ :: r :: rest =>
    match meaning r with
    | some c => c :: unescape meaning rest
    | none => ⟨0x5C⟩ :: unescape meaning (r :: rest)
  | r :: rest => r :: unescape meaning rest
  | [] => []
termination_by s => s.length

def apostropheEscape? (r : Rune) : Option Rune := if r = '\\' ∨ r.code = 0x27 then some r else none

def quoteEscape? (r : Rune) : Option Rune :=
  if r = '\\' ∨ r.code = 0x27 ∨ r = '"' then some r
  else if r = 'a' then some ⟨0x07⟩
  else if r = 'b' then some ⟨0x08⟩
  else if r = 'f' then some ⟨0x0C⟩
  else if r = 'n' then some ⟨0x0A⟩
  else if r = 'r' then some ⟨0x0D⟩
  else if r = 't' then some ⟨0x09⟩
  else if r = 'v' then some ⟨0x0B⟩
  else none

/-- Cuts a plain value before white space that a number sign follows. -/
def dropComment : Text → Text
  | [] => []
  | r :: rest =>
    if r.isBlank && (rest.dropWhile Rune.isBlank).head?.any (fun c => c.code == 0x23) then []
    else r :: dropComment rest

/-- The value after an equals sign, or the text that is left when its quotes never close. The white
space before a value counts for a comment: with it a number sign starts one, without it a value. -/
def takeValue (s : Text) : Except Text (Text × Text) :=
  match skipInline s with
  | ⟨0x27⟩ :: rest =>
    match takeQuoted? ⟨0x27⟩ rest with
    | some (content, after) => .ok (unescape apostropheEscape? content, after)
    | none => .error (⟨0x27⟩ :: rest)
  | ⟨0x22⟩ :: rest =>
    match takeQuoted? ⟨0x22⟩ rest with
    | some (content, after) => .ok (unescape quoteEscape? content, after)
    | none => .error (⟨0x22⟩ :: rest)
  | _ =>
    let line := s.takeWhile fun r => !isLineEnd r
    .ok ((dropComment line).strip, s.drop line.length)

/-! ## Lines -/

/-- What follows a statement on its line: white space and a comment. -/
def endStatement (s : Text) : Except Text Text :=
  let s :=
    match skipInline s with
    | ⟨0x23⟩ :: rest => rest.dropWhile fun r => !isLineEnd r
    | _ => s
  match skipInline s with
  | [] => .ok []
  | r :: rest => if isLineEnd r then .ok rest else .error s

/-- A statement without the word `export`, and the text after it. A comment counts as one. -/
def readBinding (s : Text) : Except Text (Statement × Text) :=
  match s with
  | ⟨0x23⟩ :: _ => (endStatement s).map fun rest => (.blank, rest)
  | _ => do
    let (name, rest) ← takeName s
    match skipInline rest with
    | ⟨0x3D⟩ :: after =>
      let (value, rest) ← takeValue after
      let rest ← endStatement rest
      return (.bind name (some value), rest)
    | rest =>
      let rest ← endStatement rest
      return (.bind name none, rest)

/-- The statement at the start of a text, on line `line`, and the text after it. -/
def readStatement (line : Nat) (s : Text) : Statement × Text :=
  match s.dropWhile Rune.isBlank with
  | [] => (.blank, [])
  | s =>
    match readBinding (skipExport s) with
    | .ok taken => taken
    | .error rest => (.malformed line, skipLine rest)

/-- All statements of a text that starts on line `line`. -/
def readStatements (fuel line : Nat) (s : Text) : List Statement :=
  match fuel, s with
  | 0, _ => []
  | _, [] => []
  | fuel + 1, s =>
    let (statement, rest) := readStatement line s
    let taken := s.take (s.length - rest.length)
    statement :: readStatements fuel (line + taken.countP Rune.isLineFeed) rest

/-- Every statement takes at least one character. -/
def statements (s : Text) : List Statement := readStatements s.length 1 s

/-! ## References -/

inductive Atom where
  | literal (r : Rune)
  | reference (name default : Text)
deriving DecidableEq, Repr

/-- The reference at the start of a text, and how long it is. -/
def reference? : Text → Option (Text × Text × Nat)
  | ⟨0x24⟩ :: ⟨0x7B⟩ :: rest =>
    let name := rest.takeWhile fun r => !(r.code == 0x7D || r.code == 0x3A)
    match rest.drop name.length with
    | ⟨0x7D⟩ :: _ => some (name, [], name.length + 3)
    | ⟨0x3A⟩ :: ⟨0x2D⟩ :: after =>
      let default := after.takeWhile fun r => r.code != 0x7D
      if default.length < after.length then some (name, default, name.length + default.length + 5)
      else none
    | _ => none
  | _ => none

def atoms (s : Text) : List Atom :=
  match s with
  | [] => []
  | r :: rest =>
    match reference? (r :: rest) with
    | some (name, default, n) => .reference name default :: atoms (rest.drop (n - 1))
    | none => .literal r :: atoms rest
termination_by s.length
decreasing_by all_goals simp only [List.length_drop, List.length_cons]; omega

/-- The text of an atom, given the values of variables; a name without a value counts as empty. -/
def Atom.resolve (lookup : Text → Option (Option Text)) : Atom → Text
  | literal r => [r]
  | reference name default =>
    match lookup name with
    | some value => value.getD []
    | none => default

/-- The bindings of a file in order. A reference looks into the surrounding environment first and
then at the bindings before it. -/
def resolve (environment : Entries Text) (statements : List Statement) : Entries (Option Text) :=
  statements.foldl (fun bound statement =>
    match statement with
    | .bind name value =>
      let lookup (name : Text) : Option (Option Text) :=
        (environment.get? name).map some <|> bound.get? name
      bound.put name (value.map fun v => (atoms v).flatMap (Atom.resolve lookup))
    | _ => bound) []

end Nomenclator.EnvFile

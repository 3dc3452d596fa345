import Nomenclator.Command.Basic
import Nomenclator.Comment.Fill

/-!
# Help

The help page of a command: how it is called, what it does, and what its switches mean, in two
columns.
-/

namespace Nomenclator.Command

/-- How a command is called, in one line. -/
def usage (command : Command) : Text := Text.concat ["Usage: ", command.call, " ", command.operands]

/-- The spellings of the switches in a row. -/
def spellings (row : SwitchRow) : Text :=
  let first := row.switches.head?
  let letter : Text :=
    match first.bind Switch.letter? with
    | some letter => [Rune.ofChar '-', letter, Rune.ofChar ',', Rune.ofChar ' ']
    | none => []
  let kind : Text :=
    match first.bind Switch.valueKind? with
    | some kind => Rune.ofChar ' ' :: kind
    | none => []
  Text.concat [letter, Text.join " / " (row.switches.map Switch.name), kind]

/-! ## Layout -/

def pageWidth : Nat := 78

def margin : Text := "  "

/-- A line for each row, with more lines where the second column needs them. -/
def columns (rows : List (Text × Text)) : Text :=
  let first := ((rows.map fun row => row.1.length).foldl max 0) + 2
  let width := pageWidth - first - margin.length
  rows.flatMap fun (left, right) =>
    let indent := margin ++ Text.blanks first
    let lines := Fill.lines width false (Chunk.ofText right)
    Text.concat
      [margin, left, Text.blanks (first - left.length),
        Text.join (Rune.ofChar '\n' :: indent) lines, "\n"]

def switchColumns (command : Command) : Text :=
  columns (command.rows.map fun row => (spellings row, row.meaning))

def commandColumns : Command → Text
  | program =>
    Text.concat
      ["\nCommands:\n",
        columns ([analyze, status].map fun command => (command.name, command.meaning))]
  | _ => []

def help (command : Command) : Text :=
  Text.concat
    [command.usage, "\n\n", margin, command.meaning, "\n\nOptions:\n", command.switchColumns,
      command.commandColumns]

end Nomenclator.Command

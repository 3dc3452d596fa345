import Nomenclator.Command.Help
import Nomenclator.Text.Likeness
import Nomenclator.Text.Quoted

/-!
# Problems with command lines

Why a command line is refused, and what the user is told then.
-/

namespace Nomenclator.Command

inductive Problem where
  /-- `close` are names that may have been meant. -/
  | noSuchSwitch (given : Text) (close : List Text)
  | noValue (given : Text)
  | unwantedValue (given : Text)
  | notNumber (switch : Switch) (given : Text)
  | noPaths
  | noSuchPath (given : Text)
  | tooManyOperands (operands : List Text)
  | noCommand
  | noSuchCommand (given : Text)
  /-- The settings that come out cannot be used. -/
  | badSettings (message : Text)
deriving DecidableEq, Repr

namespace Problem

/-- The names that may have been meant, as a question. -/
def closeText : List Text → Text
  | [] => []
  | [name] => Text.concat [" Did you mean ", name, "?"]
  | names =>
    Text.concat [" (Possible options: ", Text.join ", " (names.mergeSort Text.le), ")"]

def message : Problem → Text
  | noSuchSwitch given close => Text.concat ["No such option: ", given, closeText close]
  | noValue given => Text.concat ["Option ", given.quoted, " requires an argument."]
  | unwantedValue given => Text.concat ["Option ", given.quoted, " does not take a value."]
  | notNumber switch given =>
    Text.concat
      ["Invalid value for '", switch.name, "': ", given.quoted, " is not a valid float."]
  | noPaths => Text.concat ["Missing argument '", pathsName, "'."]
  | noSuchPath given =>
    Text.concat
      ["Invalid value for '", pathsName, "': Path ", given.quoted, " does not exist."]
  | tooManyOperands operands =>
    Text.concat
      ["Got unexpected extra argument", if operands.length = 1 then [] else "s", " (",
        Text.join " " operands, ")"]
  | noCommand => "Missing command."
  | noSuchCommand given => Text.concat ["No such command ", given.quoted, "."]
  | badSettings message => message

/-- Trouble with a value is told without a word on how the command is used. -/
def isPlain : Problem → Bool
  | noValue _ | unwantedValue _ => true
  | _ => false

/-- What the user is told of a problem with the words of a command. -/
def text (command : Command) (problem : Problem) : Text :=
  let usage :=
    if problem.isPlain then []
    else
      Text.concat
        [command.usage, "\nTry '", command.call, " ", Switch.help.name, "' for help.\n\n"]
  Text.concat [usage, "Error: ", problem.message, "\n"]

end Problem

end Nomenclator.Command

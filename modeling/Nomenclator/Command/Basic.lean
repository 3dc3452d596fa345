import Nomenclator.Command.Switch
import Nomenclator.Log

/-!
# Commands

What the program can be told to do, and the switches that each command knows.
-/

namespace Nomenclator

def programVersion : Text := "0.6.3"

/-- The commands; `program` stands for what comes before the name of a command. -/
inductive Command where
  | program
  | analyze
  | status
deriving DecidableEq, Repr

/-- Some switches and what they mean. Of two switches the second takes back the first. -/
structure SwitchRow where
  switches : List Switch
  meaning : Text
deriving DecidableEq, Repr

namespace Command

def name : Command → Text
  | program => []
  | analyze => "analyze"
  | status => "status"

/-- The command of a name. -/
def named? (t : Text) : Option Command := [analyze, status].find? fun command => command.name == t

def meaning : Command → Text
  | program => "oneiromancer: reverse engineering assistant backed by a local LLM."
  | analyze => "Analyze pseudo-code files with the local LLM."
  | status => "Show Ollama configuration status."

/-- What stands for the paths of an analysis. -/
def pathsName : Text := "PATHS..."

/-- What follows the name of a command. -/
def operands : Command → Text
  | program => "[OPTIONS] COMMAND [ARGS]..."
  | analyze => "[OPTIONS] " ++ pathsName
  | status => "[OPTIONS]"

def helpRow : SwitchRow := ⟨[.help], "Show this message and exit."⟩

def rows : Command → List SwitchRow
  | program =>
    [⟨[.version], "Show the version and exit."⟩, ⟨[.verbose], "Verbose output"⟩, helpRow]
  | analyze =>
    [⟨[.baseUrl], "Ollama base URL (default: $OLLAMA_BASEURL or http://127.0.0.1:11434)"⟩,
      ⟨[.model], "Model name (default: $OLLAMA_MODEL or aidapal)"⟩,
      ⟨[.timeout], "Read timeout in seconds for each request"⟩,
      ⟨[.split, .noSplit], "Split Hex-Rays C files into one request per function"⟩,
      ⟨[.write, .noWrite], "Save improved pseudo-code next to each input as *.out.c"⟩,
      ⟨[.overwrite], "Replace existing *.out.c files"⟩,
      ⟨[.showCode], "Print the improved pseudo-code"⟩, helpRow]
  | status => [⟨[.baseUrl], "Ollama base URL"⟩, ⟨[.model], "Model name"⟩, helpRow]

def switches (command : Command) : List Switch := command.rows.flatMap SwitchRow.switches

/-- How the command is called, without what follows its name. -/
def call (command : Command) : Text :=
  match command with
  | program => programName
  | _ => Text.concat [programName, " ", command.name]

end Command

end Nomenclator

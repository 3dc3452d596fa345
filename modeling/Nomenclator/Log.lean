import Nomenclator.Text.Basic

/-!
# Log records

What a run tells about itself besides its answer. A record belongs to the part of the program that
speaks.
-/

namespace Nomenclator

inductive Level where
  | debug
  | info
  | warning
deriving DecidableEq, Repr

def Level.name : Level → Text
  | debug => "DEBUG"
  | info => "INFO"
  | warning => "WARNING"

/-- Is the level one that a quiet run still shows? -/
def Level.isInfo : Level → Bool
  | debug => false
  | _ => true

inductive Topic where
  | settings
  | environmentFile
  | listing
  | service
  | answer
  | renames
  | analysis
  | output
  | analyzeCommand
  | commandLine
deriving DecidableEq, Repr

/-- The name under which the program goes. -/
def programName : Text := "oneiromancer"

def Topic.name : Topic → Text
  | settings => programName ++ ".config"
  | environmentFile => "dotenv.main"
  | listing => programName ++ ".sources"
  | service => programName ++ ".ollama"
  | answer => programName ++ ".parser"
  | renames => programName ++ ".rewriter"
  | analysis => programName ++ ".analyzer"
  | output => programName ++ ".output"
  | analyzeCommand => programName ++ ".cli.analyze"
  | commandLine => programName ++ ".cli"

structure Record where
  level : Level
  topic : Topic
  text : Text
deriving DecidableEq, Repr

/-- The record as a line, without its line feed. -/
def Record.line (r : Record) : Text := Text.concat [r.level.name, ":", r.topic.name, ":", r.text]

abbrev Log := List Record

def Log.warnings (log : Log) : List Record := log.filter fun r => r.level == .warning

end Nomenclator

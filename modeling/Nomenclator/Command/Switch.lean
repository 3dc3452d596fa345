import Nomenclator.Text.Basic

/-!
# Switches

What may stand on a command line besides the names of commands and files. A switch has a name, some
have a letter too, and with some of them goes a value.
-/

namespace Nomenclator

inductive Switch where
  | version
  | verbose
  | help
  | baseUrl
  | model
  | timeout
  | split
  | noSplit
  | write
  | noWrite
  | overwrite
  | showCode
deriving DecidableEq, Repr

namespace Switch

def name : Switch → Text
  | version => "--version"
  | verbose => "--verbose"
  | help => "--help"
  | baseUrl => "--base-url"
  | model => "--model"
  | timeout => "--timeout"
  | split => "--split"
  | noSplit => "--no-split"
  | write => "--write"
  | noWrite => "--no-write"
  | overwrite => "--overwrite"
  | showCode => "--show-code"

def letter? : Switch → Option Rune
  | verbose => some 'v'
  | baseUrl => some 'b'
  | model => some 'm'
  | _ => none

/-- The kind of value that goes with a switch. -/
def valueKind? : Switch → Option Text
  | baseUrl | model => some "TEXT"
  | timeout => some "FLOAT"
  | _ => none

def takesValue (switch : Switch) : Bool := switch.valueKind?.isSome

end Switch

end Nomenclator

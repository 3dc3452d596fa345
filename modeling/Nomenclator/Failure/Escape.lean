import Nomenclator.Console.Cell
import Nomenclator.Failure.Basic
import Nomenclator.Text.Utf8

/-!
# Escapes

The ways in which a run can end that are no failure of the analysis: the user interrupts it, or a
value turns up that the program does not know how to handle.
-/

namespace Nomenclator

inductive Escape where
  | nestingTooDeep
  /-- A value of a type for which the operation is not defined. -/
  | wrongType
  /-- A value without the operation that was asked of it. -/
  | missingMember
  | integerTooLong (digits : Nat)
  | overflow
  | badValue (message : Text)
  | undecodable (problem : Utf8.DecodeProblem)
  | unencodable (problem : Utf8.EncodeProblem)
  | file (error : FileError) (path : Text)
  /-- The transport broke in a way that is no transport fault. -/
  | system (message : Text)
  | interrupted
  /-- Text that the console cannot show. -/
  | unshowable (error : Console.CutError)
deriving DecidableEq, Repr

namespace Escape

def message : Escape → Text
  | nestingTooDeep => "maximum recursion depth exceeded"
  | wrongType => "unsupported type"
  | missingMember => "missing member"
  | integerTooLong digits => Json.integerTooLongMessage digits
  | overflow => "int too large to convert to float"
  | badValue message => message
  | undecodable problem => problem.message
  | unencodable problem => problem.message
  | file error path => error.message path
  | system message => message
  | interrupted => []
  | unshowable error => error.message

/-- Values that are of the right type but cannot be used. -/
def isBadValue : Escape → Bool
  | integerTooLong _ | badValue _ | undecodable _ | unencodable _ => true
  | _ => false

/-- Errors of the operating system. -/
def isSystem : Escape → Bool
  | file .. | system _ => true
  | _ => false

end Escape

/-- How a run ends early. -/
inductive Halt where
  | failed (failure : Failure)
  | escaped (escape : Escape)
deriving DecidableEq, Repr

def Halt.message : Halt → Text
  | failed failure => failure.message
  | escaped escape => escape.message

/-- A decoder's stop on the text `s` as a failure of the given kind; nesting that is too deep is
none. -/
def Json.Stop.halt (s : Text) (stop : Json.Stop) (failure : Json.Cause → Failure) : Halt :=
  match stop with
  | .malformed problem rest =>
    .failed (failure (.malformed problem (s.take (s.length - rest.length))))
  | .integerTooLong digits => .failed (failure (.integerTooLong digits))
  | .tooDeep => .escaped .nestingTooDeep

end Nomenclator

import Nomenclator.Console.Print
import Nomenclator.Failure.Escape

/-!
# Reports of failures

A failure is told with what caused it, and what caused that.
-/

namespace Nomenclator.Report

open Console

def headline (width : Nat) (message : Text) : Except CutError Text :=
  printed width (Text.concat ["[bold red][!] Error: ", Markup.escape message, "[/bold red]"])

def causeLine (width : Nat) (message : Text) : Except CutError Text :=
  printed width (Text.concat ["[red]    caused by: ", Markup.escape message, "[/red]"])

/-- The report on a failure; `messages` go from the failure to its first cause. -/
def ofChain (width : Nat) : List Text → Showing
  | [] => .ofList []
  | message :: causes => .ofList (headline width message :: causes.map (causeLine width))

def ofFailure (width : Nat) (failure : Failure) : Showing := ofChain width failure.chain

end Nomenclator.Report

import Nomenclator.Analysis.Basic
import Nomenclator.Comment.Block
import Nomenclator.Console.Code
import Nomenclator.Console.Table

/-!
# Reports of analyses

What the user sees of an analysis: the comment block, the renames, remarks about renames that came
to nothing, and the code if it is asked for.
-/

namespace Nomenclator.Report

open Console

def renameTable (a : Analysis) : Table where
  title := "Variable renaming suggestions"
  columns := [⟨"Original", .left⟩, ⟨"New", .left⟩, ⟨"Hits", .right⟩]
  rows := a.suggestion.renames.map fun (old, new) =>
    [old, new, Text.ofNat ((a.outcome.perName.get? old).getD 0)]

def renames (width : Nat) (a : Analysis) : Except CutError Text :=
  if a.suggestion.renames.isEmpty then
    printed width "[dim]No variable renaming suggestions[/dim]"
  else ((renameTable a).draw width).map endLines

/-- The names that do not occur in the code. -/
def unmatched (width : Nat) (a : Analysis) : Except CutError Text :=
  if a.outcome.unmatched.isEmpty then .ok []
  else
    printed width <| Text.concat
      ["[yellow]Not all suggested renames were found in the text: ",
        Markup.escape (Text.join ", " a.outcome.unmatched), "[/yellow]"]

def dropped (width : Nat) (a : Analysis) : Except CutError Text :=
  if a.suggestion.dropped.isEmpty then .ok []
  else
    printed width <| Text.concat
      ["[yellow]Ignored ", Text.ofNat a.suggestion.dropped.length,
        " malformed rename suggestion(s)[/yellow]"]

def code (width : Nat) (showCode : Bool) (a : Analysis) : Except CutError Text :=
  if showCode then (drawCode width a.renamed).map endLines else .ok []

/-- What the report on an analysis consists of, with an empty line at its end. -/
def parts (width : Nat) (showCode : Bool) (a : Analysis) : List (Except CutError Text) :=
  [literal width (Comment.standard a.suggestion.name a.suggestion.description), renames width a,
    unmatched width a, dropped width a, code width showCode a, .ok "\n"]

def ofAnalysis (width : Nat) (showCode : Bool) (a : Analysis) : Showing :=
  .ofList (parts width showCode a)

end Nomenclator.Report

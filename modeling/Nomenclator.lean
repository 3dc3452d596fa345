import Nomenclator.Main
import Nomenclator.Proofs.Text.Basic
import Nomenclator.Proofs.Rename.Runs
import Nomenclator.Proofs.Rename.Tokens
import Nomenclator.Proofs.Json.Number
import Nomenclator.Proofs.Json.Equations
import Nomenclator.Proofs.Json.Grammar
import Nomenclator.Proofs.Suggestion.Scan
import Nomenclator.Proofs.Suggestion.Extraction
import Nomenclator.Proofs.Json.Nesting
import Nomenclator.Proofs.Analysis.Escapes
import Nomenclator.Proofs.Analysis.Sequence
import Nomenclator.Proofs.Files.Tree
import Nomenclator.Proofs.Files.Creation
import Nomenclator.Proofs.Output.Writer
import Nomenclator.Proofs.Output.Progress
import Nomenclator.Proofs.Output.Invariant
import Nomenclator.Proofs.Output.Exclusive
import Nomenclator.Proofs.Command.Answered
import Nomenclator.Proofs.Command.Course
import Nomenclator.Proofs.Listing.Discovery
import Nomenclator.Proofs.Listing.Separators
import Nomenclator.Proofs.Command.ExitCodes
import Nomenclator.Proofs.Command.Aftermath
import Nomenclator.Proofs.Report.Plain
import Nomenclator.Proofs.Command.Invariant
import Nomenclator.Proofs.Command.Operands
import Nomenclator.Proofs.Command.Existing
import Nomenclator.Proofs.Command.Completion
import Nomenclator.Proofs.Listing.Cut
import Nomenclator.Proofs.Listing.Renamed
import Nomenclator.Proofs.Listing.Rewritten
import Nomenclator.Proofs.Listing.Lines
import Nomenclator.Proofs.Listing.Pattern
import Nomenclator.Proofs.Listing.Matches
import Nomenclator.Proofs.Listing.Reassembled
import Nomenclator.Proofs.Comment.Lines
import Nomenclator.Proofs.Suggestion.Renames
import Nomenclator.Proofs.Suggestion.Sorting
import Nomenclator.Proofs.Command.Addresses
import Nomenclator.Proofs.Comment.Closing
import Nomenclator.Proofs.Comment.Visible
import Nomenclator.Proofs.Rename.Composition
import Nomenclator.Proofs.Rename.Longest
import Nomenclator.Proofs.Rename.Counts
import Nomenclator.Proofs.Rename.Inverse
import Nomenclator.Proofs.Suggestion.Balance
import Nomenclator.Proofs.Suggestion.Validation
import Nomenclator.Proofs.Analysis.Outcome
import Nomenclator.Proofs.Analysis.Tally
import Nomenclator.Proofs.Output.Broken
import Nomenclator.Proofs.Output.Reopening
import Nomenclator.Proofs.Service.Outcome
import Nomenclator.Proofs.Service.Models
import Nomenclator.Proofs.Listing.Below
import Nomenclator.Proofs.Listing.Inputs
import Nomenclator.Proofs.Files.Questions
import Nomenclator.Proofs.Settings.Combination
import Nomenclator.Proofs.Settings.Limits
import Nomenclator.Proofs.Settings.Project
import Nomenclator.Proofs.Settings.Environment
import Nomenclator.Proofs.Settings.Soundness
import Nomenclator.Proofs.Settings.Precedence
import Nomenclator.Proofs.Command.Resolution
import Nomenclator.Proofs.Rename.Spelling
import Nomenclator.Proofs.Suggestion.Determined
import Nomenclator.Proofs.Suggestion.Restated
import Nomenclator.Proofs.Files.Linkless
import Nomenclator.Proofs.Listing.Parts
import Nomenclator.Proofs.Listing.Unchanged
import Nomenclator.Proofs.Command.Inputs
import Nomenclator.Proofs.Console.Measure
import Nomenclator.Proofs.Console.Cropping
import Nomenclator.Proofs.Console.Fitting
import Nomenclator.Proofs.Console.Filling
import Nomenclator.Proofs.Console.Running
import Nomenclator.Proofs.Console.Pictures
import Nomenclator.Proofs.Console.Literal
import Nomenclator.Proofs.Report.Literal

import Nomenclator.Analysis.Basic
import Nomenclator.Service.Client
import Nomenclator.Service.Envelope

/-!
# Attempts

An attempt takes one snippet through the whole of an analysis: a query, its reply, the suggestion in
it, the renamed snippet. Attempts are made one after the other and in order; the first that fails is
the last.
-/

namespace Nomenclator

/-- Something that answers queries. Replies of type `ρ` come in from outside, one for each query;
`silence` stands for a reply that never comes. -/
structure Backend (ρ : Type) where
  ask : Query → ρ → Service.Exchange Text
  silence : ρ

/-- A server that is reached as the settings say. -/
def Service.backend (settings : Settings) : Backend Service.Reply where
  ask := Service.generate settings
  silence := .fault ⟨.connection, "no scripted reply"⟩

/-- What became of a snippet. -/
structure Attempt (α : Type) where
  query : Query
  calls : List Service.Call
  result : Except Halt α
  log : Log

namespace Attempt

variable {ρ : Type}

/-- Asks for a suggestion for a snippet. -/
def suggestion (backend : Backend ρ) (settings : Settings) (snippet : Text) (reply : ρ) :
    Attempt Suggestion :=
  let query := Query.ofSnippet settings snippet
  let exchange := backend.ask query reply
  match exchange.result with
  | .error halt => ⟨query, exchange.calls, .error halt, exchange.log⟩
  | .ok body =>
    let (result, log) := Suggestion.ofReply body
    ⟨query, exchange.calls, result, exchange.log ++ log⟩

/-- Asks for a suggestion and applies it to the snippet. -/
def analysis (backend : Backend ρ) (settings : Settings) (index : Nat) (snippet : Text)
    (reply : ρ) : Attempt Analysis :=
  let attempt := suggestion backend settings snippet reply
  match attempt.result with
  | .error halt => ⟨attempt.query, attempt.calls, .error halt, attempt.log⟩
  | .ok suggestion =>
    let analysis := Analysis.ofSuggestion index snippet suggestion
    ⟨attempt.query, attempt.calls, .ok analysis, attempt.log ++ analysis.log⟩

/-- Attempts all snippets in order, up to the first that fails. -/
def each (backend : Backend ρ) (settings : Settings) (index : Nat) :
    List Text → List ρ → List (Attempt Analysis)
  | [], _ => []
  | snippet :: rest, replies =>
    let attempt := analysis backend settings index snippet (replies.headD backend.silence)
    match attempt.result with
    | .error _ => [attempt]
    | .ok _ => attempt :: each backend settings (index + 1) rest replies.tail

/-- Attempts all snippets. The answer is all analyses, or the failure that ended the attempts. -/
def all (backend : Backend ρ) (settings : Settings) (snippets : List Text) (replies : List ρ) :
    Except Halt (List Analysis) :=
  (each backend settings 0 snippets replies).mapM Attempt.result

end Attempt

end Nomenclator

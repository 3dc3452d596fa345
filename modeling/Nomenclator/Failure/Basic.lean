import Nomenclator.Failure.Transport
import Nomenclator.Files.Error
import Nomenclator.Json.Stop
import Nomenclator.Suggestion.Basic

/-!
# Failures

Every failure that the analysis foresees, with its cause. A failure has a category, which decides
the exit code, and a message for the user.
-/

namespace Nomenclator

/-! ## Files -/

inductive FileFailure where
  | missing (path : Text)
  | unreadable (path : Text) (error : FileError)
  | empty (path : Text)
  | wouldOverwrite (path : Text)
  | notCreated (path : Text) (error : FileError)
deriving DecidableEq, Repr

def FileFailure.message : FileFailure → Text
  | missing path => Text.concat ["No such file or directory: ", path]
  | unreadable path error => Text.concat ["Failed to read `", path, "`: ", error.reason]
  | empty path => Text.concat ["No pseudo-code found in `", path, "`"]
  | wouldOverwrite path =>
    Text.concat ["Refusing to overwrite existing `", path, "` (use --overwrite)"]
  | notCreated path error => Text.concat ["Failed to create `", path, "`: ", error.reason]

/-! ## The service -/

inductive ServiceFailure where
  | noBaseUrl
  /-- `after` is the time that was allowed, in seconds. -/
  | timedOut (url after : Text) (fault : TransportFault)
  | unreachable (url : Text) (fault : TransportFault)
  | rejected (url : Text) (fault : TransportFault)
  | status (url : Text) (code : Int) (detail : Text)
  | unreadableModels (url : Text) (cause : Json.Cause)
deriving DecidableEq, Repr

namespace ServiceFailure

def message : ServiceFailure → Text
  | noBaseUrl => "No Ollama base URL configured"
  | timedOut url after _ => Text.concat ["Timed out waiting for ", url, " after ", after, "s"]
  | unreachable url _ => Text.concat ["Could not connect to ", url]
  | rejected url fault => Text.concat ["Request to ", url, " failed: ", fault.message]
  | status url code detail =>
    Text.concat [url, " returned HTTP ", Text.ofInt code, ": ", detail]
  | unreadableModels url _ => Text.concat ["Unreadable model list from ", url]

/-- The status of the response, if one arrived that was not accepted. -/
def statusCode? : ServiceFailure → Option Int
  | status _ code _ => some code
  | _ => none

end ServiceFailure

/-! ## Replies -/

inductive ReplyFailure where
  | notJson (preview : Text) (cause : Json.Cause)
  | notTable (typeName : Text)
  | serviceError (shown : Text)
  | noResponse (keys : List Text)
deriving DecidableEq, Repr

def ReplyFailure.message : ReplyFailure → Text
  | notJson preview _ => Text.concat ["Inference response is not valid JSON: ", preview.quoted]
  | notTable typeName => Text.concat ["Inference response is not a JSON object: ", typeName]
  | serviceError shown => Text.concat ["Inference service reported an error: ", shown]
  | noResponse keys =>
    Text.concat
      ["Inference response lacks a string 'response' field (keys: [",
        Text.join ", " (keys.map Text.quoted), "])"]

/-! ## Answers -/

inductive AnswerFailure where
  | noObject (preview : Text)
  | notJson (cause : Json.Cause)
  | invalid (problems : Suggestion.Invalid)
deriving DecidableEq, Repr

def AnswerFailure.message : AnswerFailure → Text
  | noObject preview => Text.concat ["No JSON object found in model output: ", preview.quoted]
  | notJson cause => Text.concat ["Model output is not valid JSON: ", cause.message]
  | invalid problems => Text.concat ["Model output failed validation: ", problems.summary]

/-! ## All together -/

inductive Category where
  | general
  | input
  | connection
  | protocol
  | validation
deriving DecidableEq, Repr

def Category.exitCode : Category → Nat
  | input => 2
  | connection => 3
  | protocol => 4
  | validation => 5
  | general => 1

/-- What made a failure happen. -/
inductive Cause where
  | json (cause : Json.Cause)
  | invalid (problems : Suggestion.Invalid)
  | file (error : FileError) (path : Text)
  | transport (fault : TransportFault)
deriving DecidableEq, Repr

namespace Cause

/-- The cause in its own words. Of an answer that is not valid only the number of problems is told
here; the failure itself tells the rest. -/
def message : Cause → Text
  | json cause => cause.message
  | invalid problems =>
    let n := problems.problems.length
    Text.concat
      [Text.ofNat n, " validation error", if n = 1 then [] else "s", " for AnalysisResult"]
  | file error path => error.message path
  | transport fault => fault.message

end Cause

inductive Failure where
  | input (failure : FileFailure)
  | service (failure : ServiceFailure)
  | reply (failure : ReplyFailure)
  | answer (failure : AnswerFailure)
  /-- A failure of a service of another kind, in its own words. -/
  | told (category : Category) (message : Text)
deriving DecidableEq, Repr

namespace Failure

def category : Failure → Category
  | input _ => .input
  | service _ => .connection
  | reply _ => .protocol
  | answer _ => .validation
  | told category _ => category

def message : Failure → Text
  | input failure => failure.message
  | service failure => failure.message
  | reply failure => failure.message
  | answer failure => failure.message
  | told _ message => message

def exitCode (failure : Failure) : Nat := failure.category.exitCode

def cause? : Failure → Option Cause
  | input (.unreadable path error) => some (.file error path)
  | input (.wouldOverwrite path) => some (.file .present path)
  | input (.notCreated path error) => some (.file error path)
  | service (.timedOut _ _ fault) => some (.transport fault)
  | service (.unreachable _ fault) => some (.transport fault)
  | service (.rejected _ fault) => some (.transport fault)
  | service (.unreadableModels _ cause) => some (.json cause)
  | reply (.notJson _ cause) => some (.json cause)
  | answer (.notJson cause) => some (.json cause)
  | answer (.invalid problems) => some (.invalid problems)
  | _ => none

/-- The message of a failure and then those of its causes. -/
def chain (failure : Failure) : List Text :=
  failure.message :: (failure.cause?.map Cause.message).toList

end Failure

end Nomenclator

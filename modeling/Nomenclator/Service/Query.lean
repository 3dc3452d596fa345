import Nomenclator.Json.Printer
import Nomenclator.Settings.Basic

/-!
# Queries

What is asked of the service for one snippet: fixed instructions, the shape of the answer, and the
snippet itself.
-/

namespace Nomenclator

/-- `options` are passed on as they are. -/
structure Query where
  model : Value
  prompt : Text
  stream : Value
  format : Value
  options : Entries Value
deriving Repr

namespace Query

/-! ## The prompt -/

def instructions : Text :=
  Text.join [⟨0x0A⟩]
    ["You are a reverse engineering assistant.",
      "Analyze the decompiled pseudo-code of ONE function below and respond with a",
      "single JSON object and nothing else. The object must have these keys:",
      "- \"description\": a concise explanation of what the function does",
      "- \"name\": a descriptive name for the function",
      "- \"variables\": an object mapping each original variable or parameter name",
      "  to a more meaningful name",
      "",
      "Only rename identifiers that appear in the code. Use valid C identifiers."]

def typed (name : Text) (more : Entries Value) : Value := .table (("type", .text name) :: more)

/-- The shape that an answer should have. -/
def schema : Value :=
  typed "object"
    [("properties",
        .table
          [("description", typed "string" []), ("name", typed "string" []),
            ("variables", typed "object" [("additionalProperties", typed "string" [])])]),
      ("required",
        .list [.text "description", .text "name", .text "variables"])]

def promptFor (snippet : Text) : Text :=
  Text.concat
    [instructions, "\n\nJSON schema:\n", Json.print (.indented 0) schema, "\n\nPseudo-code:\n",
      snippet]

/-! ## Building -/

/-- A query is answered as a whole, in JSON, unless it says otherwise. -/
def plain (model : Value) (prompt : Text) (options : Entries Value) : Query :=
  ⟨model, prompt, .boolean false, .text "json", options⟩

/-- A temperature is the only option there is. -/
def optionsOf (settings : Settings) : Entries Value :=
  match settings.temperature with
  | .null => []
  | temperature => [("temperature", temperature)]

def ofSnippet (settings : Settings) (snippet : Text) : Query :=
  plain settings.model (promptFor snippet) (optionsOf settings)

/-- The fields that are sent. Empty options are left out. -/
def payload (query : Query) : Entries Value :=
  let options : Entries Value :=
    if query.options.isEmpty then [] else [("options", .table query.options)]
  ("model", query.model) :: ("prompt", .text query.prompt) :: ("stream", query.stream) ::
    ("format", query.format) :: options

end Query

end Nomenclator

import Nomenclator.Identifier
import Nomenclator.Text.Blank
import Nomenclator.Value.Basic

/-!
# Suggestions

A suggestion is what a model proposes for one function: a description, a name, and new names for
variables. Renames that cannot be used are set aside and counted, they do not spoil the suggestion;
a missing or blank description or name does.
-/

namespace Nomenclator

/-! ## Renames -/

/-- The usable renames, one per old name, and the entries set aside. -/
structure Renames where
  kept : Entries Text
  dropped : List (Text × Text)
deriving Repr, DecidableEq

namespace Renames

def empty : Renames := ⟨[], []⟩

/-- A rename is usable when both names are identifiers, blanks around them aside, and its old name
is not taken yet. -/
def add (renames : Renames) (pair : Value × Value) : Renames :=
  match pair with
  | (.text old, .text new) =>
    let old := old.strip
    let new := new.strip
    if isIdentifier old && isIdentifier new && !renames.kept.hasKey old then
      { renames with kept := renames.kept ++ [(old, new)] }
    else { renames with dropped := renames.dropped ++ [(old, new)] }
  | (old, new) => { renames with dropped := renames.dropped ++ [(old.shown, new.shown)] }

/-- The two names in an item of a list of renames. -/
def itemPair? : Value → Option (Value × Value)
  | .table entries => do
    let old ← Entries.get? "original_name" entries
    let new ← Entries.get? "new_name" entries
    return (old, new)
  | _ => none

/-- Renames come as a table from old to new names or as a list of items that hold both names. -/
def ofValue : Value → Renames
  | .null => empty
  | .table entries => (entries.map fun entry => (.text entry.1, entry.2)).foldl add empty
  | .list items =>
    let others := items.filter fun item => (itemPair? item).isNone
    (items.filterMap itemPair?).foldl add ⟨[], others.map fun item => (item.shown, [])⟩
  | other => ⟨[], [(other.shown, [])]⟩

end Renames

/-! ## Validation -/

structure Suggestion where
  description : Text
  name : Text
  renames : Entries Text
  dropped : List (Text × Text)
deriving Repr, DecidableEq

namespace Suggestion

inductive Fault where
  | missing
  | notText
  | blank
deriving DecidableEq, Repr

def Fault.code : Fault → Text
  | missing => "missing"
  | notText => "string_type"
  | blank => "value_error"

def Fault.message : Fault → Text
  | missing => "Field required"
  | notText => "Input should be a valid string"
  | blank => "Value error, must not be empty"

/-- What is wrong with an answer: it is no table at all, or some of its fields are at fault. -/
inductive Invalid where
  | notTable
  | fields (problems : List (Text × Fault))
deriving DecidableEq, Repr

/-- The names under which each field may come; the first one present counts. -/
def descriptionKeys : List Text := ["description", "comment"]

def nameKeys : List Text := ["name", "function_name", "suggestedName", "suggested_name"]

/-- The first of `keys` that is present, with its value. -/
def choose? (keys : List Text) (entries : Entries Value) : Option (Text × Value) :=
  keys.findSome? fun key => (Entries.get? key entries).map fun value => (key, value)

def field (keys : List Text) (entries : Entries Value) : Except (Text × Fault) Text :=
  match choose? keys entries with
  | none => .error (keys.headD [], .missing)
  | some (key, .text t) => if t.strip.isEmpty then .error (key, .blank) else .ok t.strip
  | some (key, _) => .error (key, .notText)

def ofEntries (entries : Entries Value) : Except Invalid Suggestion :=
  let renames := Renames.ofValue ((Entries.get? "variables" entries).getD .null)
  match field descriptionKeys entries, field nameKeys entries with
  | .ok description, .ok name => .ok ⟨description, name, renames.kept, renames.dropped⟩
  | .error problem, .ok _ => .error (.fields [problem])
  | .ok _, .error problem => .error (.fields [problem])
  | .error first, .error second => .error (.fields [first, second])

def ofValue : Value → Except Invalid Suggestion
  | .table entries => ofEntries entries
  | _ => .error .notTable

namespace Invalid

/-- Each problem with the place where it was found, an empty place for the answer as a whole. -/
def problems : Invalid → List (List Text × Text × Text)
  | notTable =>
    [([], "model_type", "Input should be a valid dictionary or instance of AnalysisResult")]
  | fields problems => problems.map fun (key, fault) => ([key], fault.code, fault.message)

/-- The problems in one line. -/
def summary (invalid : Invalid) : Text :=
  Text.join "; " <| invalid.problems.map fun (place, _, message) =>
    Text.concat [if place.isEmpty then "result" else Text.join "." place, ": ", message]

end Invalid

end Suggestion

end Nomenclator

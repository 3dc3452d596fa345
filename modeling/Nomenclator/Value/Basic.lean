import Nomenclator.Number.Decimal
import Nomenclator.Text.Quoted
import Nomenclator.Value.Moment

/-!
# Values

The untyped values that a model's answer, a server's reply or a settings file may hold. A table
keeps its entries in the order in which their keys first appeared.
-/

namespace Nomenclator

inductive Value where
  | null
  | boolean (b : Bool)
  | integer (n : Int)
  | real (x : Binary64)
  | text (t : Text)
  | list (items : List Value)
  | table (entries : List (Text × Value))
  | moment (m : Moment)
deriving Inhabited, Repr

/-! ## Entries -/

/-- Entries in order of first appearance, one per key. -/
abbrev Entries (α : Type) := List (Text × α)

namespace Entries

variable {α : Type}

def get? (key : Text) (entries : Entries α) : Option α :=
  (entries.find? fun entry => entry.1 == key).map (·.2)

def hasKey (key : Text) (entries : Entries α) : Bool := entries.any fun entry => entry.1 == key

def keys (entries : Entries α) : List Text := entries.map (·.1)

/-- The last value given for a key wins; the key keeps its first place. -/
def put (key : Text) (value : α) : Entries α → Entries α
  | [] => [(key, value)]
  | entry :: rest => if entry.1 = key then (key, value) :: rest else entry :: put key value rest

def ofList (pairs : List (Text × α)) : Entries α :=
  pairs.foldl (fun entries pair => put pair.1 pair.2 entries) []

theorem mem_of_get? {key : Text} {value : α} {entries : Entries α}
    (h : entries.get? key = some value) : (key, value) ∈ entries := by
  simp only [get?, Option.map_eq_some_iff] at h
  obtain ⟨entry, hfind, rfl⟩ := h
  have hkey : entry.1 = key := by simpa using List.find?_some hfind
  exact hkey ▸ List.mem_of_find?_eq_some hfind

theorem get?_eq_none_iff {key : Text} {entries : Entries α} :
    entries.get? key = none ↔ key ∉ entries.keys := by
  simp only [get?, keys, Option.map_eq_none_iff, List.find?_eq_none, beq_iff_eq, List.mem_map,
    not_exists, not_and]

end Entries

namespace Value

/-! ## Views -/

def asText? : Value → Option Text
  | .text t => some t
  | _ => none

def asTable? : Value → Option (List (Text × Value))
  | .table entries => some entries
  | _ => none

/-- Empty, zero and null count as false. -/
def isTrue : Value → Bool
  | .null => false
  | .boolean b => b
  | .integer n => n != 0
  | .real x => !x.isZero
  | .text t => !t.isEmpty
  | .list items => !items.isEmpty
  | .table entries => !entries.isEmpty
  | .moment _ => true

/-- Whether a number is known to be zero or below; `none` for what is no number. -/
def atMostZero? : Value → Option Bool
  | .boolean b => some (!b)
  | .integer n => some (n ≤ 0)
  | .real x => some x.atMostZero
  | _ => none

def typeName : Value → Text
  | .null => "NoneType"
  | .boolean _ => "bool"
  | .integer _ => "int"
  | .real _ => "float"
  | .text _ => "str"
  | .list _ => "list"
  | .table _ => "dict"
  | .moment m => m.typeName

/-! ## Text of a value -/

mutual

/-- A value as an expression: texts in quotes, lists in brackets, tables in braces. -/
def written : Value → Text
  | .null => "None"
  | .boolean true => "True"
  | .boolean false => "False"
  | .integer n => Text.ofInt n
  | .real x => x.written
  | .text t => t.quoted
  | .list items => Text.concat ["[", Text.join ", " (writtenItems items), "]"]
  | .table entries => Text.concat ["\x7b", Text.join ", " (writtenEntries entries), "\x7d"]
  | .moment m => m.written

def writtenItems : List Value → List Text
  | [] => []
  | item :: rest => written item :: writtenItems rest

def writtenEntries : List (Text × Value) → List Text
  | [] => []
  | (key, value) :: rest => Text.concat [key.quoted, ": ", written value] :: writtenEntries rest

end

/-- A value as a word in a sentence: like an expression, but a text stands for itself. -/
def shown : Value → Text
  | .text t => t
  | .moment m => m.shown
  | value => value.written

end Value

end Nomenclator

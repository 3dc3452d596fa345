import Nomenclator.Value.Basic

/-!
# Tables under construction

A document names its tables in any order, but each one only once. A table that was only passed on
the way to another one may still be opened; one built by dotted keys may grow as long as its section
lasts; a value in brackets or braces is closed.
-/

namespace Nomenclator.Toml

/-- How a table came into being: on the way to another one, under a heading of its own, or by dotted
keys in a section. -/
inductive Origin where
  | passed
  | heading
  | dotted (part : Nat)
deriving DecidableEq, Repr

/-- A list of tables grows at its end; only the last one is still open. -/
inductive Node where
  | closed (value : Value)
  | table (origin : Origin) (entries : List (Text × Node))
  | tables (earlier : List Value) (last : List (Text × Node))
deriving Inhabited

namespace Node

mutual

def toValue : Node → Value
  | closed value => value
  | table _ entries => .table (toEntries entries)
  | tables earlier last => .list (earlier ++ [.table (toEntries last)])

def toEntries : List (Text × Node) → Entries Value
  | [] => []
  | (key, node) :: rest => (key, toValue node) :: toEntries rest

end

/-- Changes the table at the end of a path; tables that are missing on the way are made. -/
def within (change : Entries Node → Option (Entries Node)) :
    List Text → Entries Node → Option (Entries Node)
  | [], entries => change entries
  | key :: rest, entries =>
    match entries.get? key with
    | none => (within change rest []).map fun inner => entries.put key (.table .passed inner)
    | some (.table origin inner) =>
      (within change rest inner).map fun inner => entries.put key (.table origin inner)
    | some (.tables earlier last) =>
      (within change rest last).map fun last => entries.put key (.tables earlier last)
    | some (.closed _) => none

/-- Opens a table under a heading. -/
def openTable (key : Text) (entries : Entries Node) : Option (Entries Node) :=
  match entries.get? key with
  | none => some (entries.put key (.table .heading []))
  | some (.table .passed inner) => some (entries.put key (.table .heading inner))
  | _ => none

/-- Starts the next table of a list of tables. -/
def appendTable (key : Text) (entries : Entries Node) : Option (Entries Node) :=
  match entries.get? key with
  | none => some (entries.put key (.tables [] []))
  | some (.tables earlier last) =>
    some (entries.put key (.tables (earlier ++ [.table (toEntries last)]) []))
  | _ => none

/-- May dotted keys of a part of the document add to a table? -/
def Origin.admits (part : Nat) : Origin → Bool
  | .passed => true
  | .heading => false
  | .dotted other => other == part

/-- Gives a value to a dotted key that has none yet. -/
def assign (part : Nat) (value : Value) : List Text → Entries Node → Option (Entries Node)
  | [], _ => none
  | [key], entries =>
    if entries.hasKey key then none else some (entries.put key (.closed value))
  | key :: rest, entries =>
    match entries.get? key with
    | none =>
      (assign part value rest []).map fun inner => entries.put key (.table (.dotted part) inner)
    | some (.table origin inner) =>
      if Origin.admits part origin then
        (assign part value rest inner).map fun inner =>
          entries.put key (.table (.dotted part) inner)
      else none
    | _ => none

end Node

end Nomenclator.Toml

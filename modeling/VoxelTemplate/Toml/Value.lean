import VoxelTemplate.Text.Basic
/-! Values of a TOML document, and the rules by which keys and headers build its tables. A table
may be written once; what stays open afterwards depends on how it was written. -/
namespace VoxelTemplate.Toml

/-- How a table came about. -/
inductive Origin where
  /-- Written in braces: complete from the start. -/
  | braces
  /-- On the way to a deeper header: a header of its own may still follow. -/
  | passage
  /-- By a dotted key: further dotted keys may add to it. -/
  | dotted
  /-- By its own header. -/
  | header
deriving DecidableEq, Repr

inductive Value where
  | string (text : Text)
  | integer (value : Int)
  | float (written : Text)
  | boolean (value : Bool)
  /-- A date, a time or both, in normal form. -/
  | moment (text : Text)
  | array (items : List Value)
  | table (origin : Origin) (entries : List (Text × Value))
  /-- The tables under one doubled header. -/
  | tables (rows : List (List (Text × Value)))
deriving Repr, Inhabited

/-- The entries of a table in the order of the document; no key stands twice. -/
abbrev Entries := List (Text × Value)

namespace Entries

def replace (key : Text) (value : Value) (entries : Entries) : Entries :=
  entries.map fun entry => if entry.1 = key then (key, value) else entry

def append (key : Text) (value : Value) (entries : Entries) : Entries := entries ++ [(key, value)]

/-- Sets the key of a line, `key` or `key.next.…`. The path may lead through tables made by dotted
keys, and must end in one; a key that has a value is not set again. -/
def define (value : Value) (key : Text) : (path : List Text) → Entries → Option Entries
  | [], entries =>
    if (entries.lookup key).isSome then none else some (entries.append key value)
  | next :: path, entries =>
    match entries.lookup key with
    | none => (define value next path []).map fun inner =>
        entries.append key (.table .dotted inner)
    | some (.table .dotted inner) => (define value next path inner).map fun inner =>
        entries.replace key (.table .dotted inner)
    | some (.table .passage inner) =>
      if path.isEmpty then none
      else (define value next path inner).map fun inner =>
        entries.replace key (.table .passage inner)
    | some (.tables rows) =>
      if path.isEmpty then none
      else (define value next path (rows.getLastD [])).map fun inner =>
        entries.replace key (.tables (rows.dropLast ++ [inner]))
    | some _ => none

/-- Changes the entries of the table that a header path names, making the tables on the way. The
path leads through the last table of a list of tables. -/
def within (change : Entries → Option Entries) : (path : List Text) → Entries → Option Entries
  | [], entries => change entries
  | key :: path, entries =>
    match entries.lookup key with
    | none => (within change path []).map fun inner => entries.append key (.table .passage inner)
    | some (.table .braces _) => none
    | some (.table origin inner) => (within change path inner).map fun inner =>
        entries.replace key (.table origin inner)
    | some (.tables rows) => (within change path (rows.getLastD [])).map fun inner =>
        entries.replace key (.tables (rows.dropLast ++ [inner]))
    | some _ => none

def openTable (key : Text) (entries : Entries) : Option Entries :=
  match entries.lookup key with
  | none => some (entries.append key (.table .header []))
  | some (.table .passage inner) => some (entries.replace key (.table .header inner))
  | some _ => none

/-- Opens one more table under a doubled header. -/
def openRow (key : Text) (entries : Entries) : Option Entries :=
  match entries.lookup key with
  | none => some (entries.append key (.tables [[]]))
  | some (.tables rows) => some (entries.replace key (.tables (rows ++ [[]])))
  | some _ => none

end Entries
end VoxelTemplate.Toml

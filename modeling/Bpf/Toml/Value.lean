import Bpf.Toml.Numbers

/-!
# TOML values

A document is a tree of tables.  How a table came about decides what may still be added to it: a
table that only exists because of the headers of its children may be opened by a header or extended
by a key with points, a table that such keys have made or extended is theirs, and a table written
between braces is complete.  The functions below make one addition each, or refuse it.
-/

namespace Bpf.Toml

/-- How a table came about. -/
inductive TableKind where
  /-- By a header of its own, or as the document. -/
  | header
  /-- By the header of a table inside of it. -/
  | implied
  /-- By a key with points, which may have found it as an implied one. -/
  | dotted
  /-- Between braces. -/
  | inline
deriving DecidableEq

/-- A value. -/
inductive Value where
  | string (text : String)
  | number (n : Number)
  | bool (b : Bool)
  | date
  | array (items : List Value)
  /-- Tables that have a header each. -/
  | tables (items : List (List (String × Value)))
  | table (kind : TableKind) (entries : List (String × Value))

mutual
/-- Every number in a value has a value. -/
def Value.isReadable : Value → Bool
  | .number .unreadable => false
  | .array items => Value.areReadable items
  | .tables items => Value.areReadableTables items
  | .table _ entries => Value.areReadableEntries entries
  | _ => true

/-- Every number in the elements of an array has a value. -/
def Value.areReadable : List Value → Bool
  | [] => true
  | v :: rest => v.isReadable && Value.areReadable rest

/-- Every number in tables with a header each has a value. -/
def Value.areReadableTables : List (List (String × Value)) → Bool
  | [] => true
  | entries :: rest => Value.areReadableEntries entries && Value.areReadableTables rest

/-- Every number in the entries of a table has a value. -/
def Value.areReadableEntries : List (String × Value) → Bool
  | [] => true
  | (_, v) :: rest => v.isReadable && Value.areReadableEntries rest
end

/-- The entries of a table. -/
abbrev Entries := List (String × Value)

namespace Entries

/-- The value under a key. -/
def get? (entries : Entries) (key : String) : Option Value :=
  (entries.find? (·.1 == key)).map Prod.snd

/-- The entries with a value put under a key, in place of the value that is there. -/
def put (entries : Entries) (key : String) (value : Value) : Entries :=
  if entries.any (·.1 == key) then
    entries.map fun e => if e.1 == key then (key, value) else e
  else entries ++ [(key, value)]

/-- A change of the last one of several tables. -/
def changeLast (change : Entries → Option Entries) (items : List Entries) :
    Option (List Entries) :=
  match items.reverse with
  | [] => none
  | last :: before => (change last).map fun last => (last :: before).reverse

/-- Adds a value to a table, under a key that points may divide.  The tables on the way are made if
they are not there, and otherwise become tables of such keys, unless they are headed or complete. -/
def assign (value : Value) : (path : List String) → Entries → Option Entries
  | [], _ => none
  | [key], entries => if (entries.get? key).isSome then none else some (entries.put key value)
  | key :: rest, entries =>
    match entries.get? key with
    | none => (assign value rest []).map fun inner => entries.put key (.table .dotted inner)
    | some (.table kind inner) =>
      if kind = .dotted || kind = .implied then
        (assign value rest inner).map fun inner => entries.put key (.table .dotted inner)
      else none
    | some (.tables items) =>
      if rest.length = 1 then none
      else (changeLast (assign value rest) items).map fun items => entries.put key (.tables items)
    | some _ => none

/-- Opens what a header names: `last` makes the value under the last key from the one that is there,
and the tables on the way are made if they are not there. -/
def openHeader (last : Option Value → Option Value) :
    (header : List String) → Entries → Option Entries
  | [], _ => none
  | [key], entries => (last (entries.get? key)).map (entries.put key)
  | key :: rest, entries =>
    match entries.get? key with
    | none => (openHeader last rest []).map fun inner => entries.put key (.table .implied inner)
    | some (.table .inline _) => none
    | some (.table kind inner) =>
      (openHeader last rest inner).map fun inner => entries.put key (.table kind inner)
    | some (.tables items) =>
      (changeLast (openHeader last rest) items).map fun items => entries.put key (.tables items)
    | some _ => none

/-- The table of a header of its own. -/
def headed : Option Value → Option Value
  | none => some (.table .header [])
  | some (.table .implied inner) => some (.table .header inner)
  | some _ => none

/-- Another one of several tables with a header each. -/
def repeated : Option Value → Option Value
  | none => some (.tables [[]])
  | some (.tables items) => some (.tables (items ++ [[]]))
  | some _ => none

/-- Changes the table that was opened last under a header. -/
def below (change : Entries → Option Entries) : (header : List String) → Entries → Option Entries
  | [], entries => change entries
  | key :: rest, entries =>
    match entries.get? key with
    | some (.table kind inner) =>
      (below change rest inner).map fun inner => entries.put key (.table kind inner)
    | some (.tables items) =>
      (changeLast (below change rest) items).map fun items => entries.put key (.tables items)
    | _ => none

end Entries

end Bpf.Toml

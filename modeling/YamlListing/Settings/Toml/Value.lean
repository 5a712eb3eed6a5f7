set_option autoImplicit false

/-! # Tables of settings

The value of a TOML document is a table. Tables are made in five ways, and which way decides what may
still be added to one: a header may open a table once and only if nothing but longer headers named
it before, dotted keys may extend only what dotted keys made, and an inline table is complete. -/

namespace YamlListing.Toml

/-- How a table came to be. -/
inductive Making where
  /-- Its own header opened it. The table of the whole document counts as one of these. -/
  | header
  /-- The header of a table inside it named it. -/
  | named
  /-- A dotted key went through it. -/
  | dotted
  /-- It was written in braces. -/
  | inline
  deriving DecidableEq, Repr

/-- A value. Numbers with a point, dates and times are not told apart, since no setting takes one. -/
inductive Value where
  | string (text : String)
  | integer (n : Int)
  | boolean (b : Bool)
  | other
  | array (items : List Value)
  | table (making : Making) (entries : List (String × Value))
  /-- The tables that headers in double brackets opened, one after the other. -/
  | tables (items : List (List (String × Value)))
  deriving Inhabited, Repr

/-- The keys of a table with their values, in the order in which they were added. -/
abbrev Entries := List (String × Value)

namespace Entries

/-- The value of a key. -/
def find? (entries : Entries) (key : String) : Option Value :=
  (List.find? (fun entry => entry.1 == key) entries).map Prod.snd

/-- Entries with another value for a key. -/
def put (entries : Entries) (key : String) (value : Value) : Entries :=
  if (entries.find? key).isSome then
    entries.map fun entry => if entry.1 == key then (key, value) else entry
  else entries ++ [(key, value)]

/-- Entries with a value for a key that had none. -/
def add? (entries : Entries) (key : String) (value : Value) : Option Entries :=
  match entries.find? key with
  | some _ => none
  | none => some (entries.put key value)

/-- Changes the entries at the end of a path of keys; tables that are missing on the way are made.
    `making` says how they are made and how the table at the start of the path was. -/
def change? (missing : Making) (f : Making → Entries → Option Entries) :
    List String → Making → Entries → Option Entries
  | [], making, entries => f making entries
  | key :: path, _, entries =>
    match entries.find? key with
    | none => do
      return entries.put key (.table missing (← change? missing f path missing []))
    | some (.table making inner) =>
      if making = .inline ∨ (missing = .dotted ∧ making = .header) then none
      else do return entries.put key (.table making (← change? missing f path making inner))
    | some (.tables items) =>
      match items.getLast? with
      | none => none
      | some inner => do
        let inner ← change? missing f path .header inner
        return entries.put key (.tables (items.dropLast ++ [inner]))
    | some _ => none

/-- Adds a value under a dotted key. The table that holds it must have been made by dotted keys,
    unless the key has one part only. -/
def define? (entries : Entries) (path : List String) (key : String) (value : Value) :
    Option Entries :=
  change? .dotted
    (fun making inner =>
      if path.isEmpty ∨ making = .dotted then inner.add? key value else none)
    path .header entries

/-- Opens a table by its header. -/
def openTable? (entries : Entries) (path : List String) (key : String) : Option Entries :=
  change? .named
    (fun _ inner => match inner.find? key with
      | none => some (inner.put key (.table .header []))
      | some (.table .named found) => some (inner.put key (.table .header found))
      | some _ => none)
    path .header entries

/-- Opens one more table of an array by its header. -/
def openItem? (entries : Entries) (path : List String) (key : String) : Option Entries :=
  change? .named
    (fun _ inner => match inner.find? key with
      | none => some (inner.put key (.tables [[]]))
      | some (.tables items) => some (inner.put key (.tables (items ++ [[]])))
      | some _ => none)
    path .header entries

end Entries

end YamlListing.Toml

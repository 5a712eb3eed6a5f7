import YamlListing.Settings.Toml.Scalar

set_option autoImplicit false

/-! # TOML documents

A document is read line by line. A header opens a table, and the keys on the lines after it go there.
`ofText?` answers the table of the whole document. -/

namespace YamlListing.Toml

open Scan

/-! ## Values -/

/-- An array of values. A comma may follow the last one. -/
def array (item : Scan Value) : Scan Value := do
  let _ ← sign '['
  let items ← optional do
    let items ← separated (do
      blanks
      let value ← item
      blanks
      return value) (sign ',')
    let _ ← optional (sign ',')
    return items
  blanks
  let _ ← sign ']'
  return .array (items.getD [])

/-- A key and its value. -/
def pair (value : Scan Value) : Scan ((List String × String) × Value) := do
  let name ← key
  let _ ← sign '='
  let _ ← spaces
  return (name, ← value)

/-- The entries that keys with values make. -/
def entriesOf? (pairs : List ((List String × String) × Value)) : Option Entries :=
  pairs.foldlM (fun entries ((path, last), value) => entries.define? path last value) []

/-- A table in braces, on one line. -/
def inlineTable (value : Scan Value) : Scan Value := do
  let _ ← sign '\x7b'
  let pairs ← optional (separated (pair value <* spaces) (sign ','))
  let _ ← spaces
  let _ ← sign '\x7d'
  match entriesOf? (pairs.getD []) with
  | some entries => return .table .inline entries
  | none => failure

/-- A value that holds others down to a given depth. -/
def value : (depth : Nat) → Scan Value
  | 0 => scalar
  | depth + 1 => scalar <|> array (value depth) <|> inlineTable (value depth)

/-! ## Lines -/

/-- A line of a document. -/
inductive Line where
  | blank
  | pair (path : List String) (last : String) (value : Value)
  /-- A header in single brackets. -/
  | tableHeader (path : List String) (last : String)
  /-- A header in double brackets. -/
  | itemHeader (path : List String) (last : String)

/-- A line with its end. -/
def line : Scan Line := do
  let _ ← spaces
  let itemHeader : Scan Line := do
    exactly ['[', '[']
    let (path, last) ← key
    exactly [']', ']']
    return .itemHeader path last
  let tableHeader : Scan Line := do
    exactly ['[']
    let (path, last) ← key
    exactly [']']
    return .tableHeader path last
  let entry : Scan Line := do
    let ((path, last), value) ← pair (value maxDepth)
    return .pair path last value
  let found ← itemHeader <|> tableHeader <|> entry <|> return .blank
  lineEnd
  return found

/-! ## Documents -/

/-- A document being read: its table, and the path to the table that was opened last. -/
structure Draft where
  entries : Entries
  current : List String

/-- A draft with one more line. -/
def Draft.add? (d : Draft) : Line → Option Draft
  | .blank => some d
  | .pair path last value => do
    let entries ← Entries.change? .named (fun _ inner => inner.define? path last value)
      d.current .header d.entries
    return { d with entries := entries }
  | .tableHeader path last => do
    return ⟨← d.entries.openTable? path last, path ++ [last]⟩
  | .itemHeader path last => do
    return ⟨← d.entries.openItem? path last, path ++ [last]⟩

/-- The lines of a document, which may begin with a byte order mark. -/
def lines : Scan (List Line) := do
  let _ ← optional (sign '\ufeff')
  many line

/-- The table of a document. -/
def ofText? (t : Text) : Option Entries := do
  let draft ← (← lines.whole? t).foldlM Draft.add? ⟨[], []⟩
  return draft.entries

end YamlListing.Toml

import YamlListing.Settings.Toml.Document

set_option autoImplicit false

/-! # Settings

What a user may put into a settings file: the theme, how lines are shown, a palette of one's own, and
styles for single categories. A file is refused as a whole if it holds a key that no setting has, or
a value of the wrong kind. -/

namespace YamlListing

/-- The settings of one style. -/
structure StyleSettings where
  fg : Option String := none
  bg : Option String := none
  bold : Bool := false
  italic : Bool := false
  underline : Bool := false
  dim : Bool := false
  deriving DecidableEq, Repr

/-- The settings of a palette: the builtin palette to begin with, and the roles to change, sorted by
    name, with their colors. -/
structure PaletteSettings where
  base : Option String := none
  roles : List (String × String) := []
  deriving DecidableEq, Repr

/-- All settings. -/
structure Settings where
  theme : Option String := none
  lineNumbers : Bool := false
  /-- The number of unchanged lines around each change in a summary. -/
  context : Nat := 3
  controlEscape : Bool := true
  tabWidth : Nat := 8
  palette : Option PaletteSettings := none
  /-- The styles of categories, sorted by name. -/
  styles : List (String × StyleSettings) := []
  deriving DecidableEq, Repr

/-! ## Reading values -/

namespace Toml.Value

/-- The text of a string. -/
def string? : Value → Option String
  | string text => some text
  | _ => none

/-- The value of a boolean. -/
def boolean? : Value → Option Bool
  | boolean b => some b
  | _ => none

/-- The value of a whole number that is not negative. -/
def natural? : Value → Option Nat
  | integer n => if 0 ≤ n then some n.toNat else none
  | _ => none

/-- The entries of a table. -/
def entries? : Value → Option Entries
  | table _ entries => some entries
  | _ => none

end Toml.Value

open Toml (Value Entries)

/-- Pairs in the order of their names. -/
def sortedByName {α : Type} (pairs : List (String × α)) : List (String × α) :=
  pairs.mergeSort fun a b => decide (a.1 ≤ b.1)

namespace StyleSettings

/-- The names of the settings of a style, in the order in which an array gives them. -/
def names : List String := ["fg", "bg", "bold", "italic", "underline", "dim"]

/-- Style settings with one more. -/
def set? (s : StyleSettings) (name : String) (v : Value) : Option StyleSettings :=
  match name with
  | "fg" => do return { s with fg := some (← v.string?) }
  | "bg" => do return { s with bg := some (← v.string?) }
  | "bold" => do return { s with bold := ← v.boolean? }
  | "italic" => do return { s with italic := ← v.boolean? }
  | "underline" => do return { s with underline := ← v.boolean? }
  | "dim" => do return { s with dim := ← v.boolean? }
  | _ => none

/-- The style settings that entries give. -/
def ofEntries? (entries : Entries) : Option StyleSettings :=
  entries.foldlM (fun s (name, v) => s.set? name v) {}

/-- The style settings of a table, or of an array that gives them in order; what an array gives
    after the last one does not count. -/
def ofValue? : Value → Option StyleSettings
  | .table _ entries => ofEntries? entries
  | .array items => ofEntries? (names.zip items)
  | _ => none

end StyleSettings

namespace PaletteSettings

/-- The palette settings of a table: every key but that of the base names a role. -/
def ofValue? (v : Value) : Option PaletteSettings := do
  let pairs ← (← v.entries?).mapM fun (name, v) => do return (name, ← v.string?)
  return ⟨(pairs.find? fun pair => pair.1 == "base").map Prod.snd,
    sortedByName (pairs.filter fun pair => pair.1 != "base")⟩

end PaletteSettings

namespace Settings

/-- Settings with one more. -/
def set? (s : Settings) (name : String) (v : Value) : Option Settings :=
  match name with
  | "theme" => do return { s with theme := some (← v.string?) }
  | "line_numbers" => do return { s with lineNumbers := ← v.boolean? }
  | "context" => do return { s with context := ← v.natural? }
  | "control_escape" => do return { s with controlEscape := ← v.boolean? }
  | "tab_width" => do return { s with tabWidth := ← v.natural? }
  | "palette" => do return { s with palette := some (← PaletteSettings.ofValue? v) }
  | "styles" => do
    let styles ← (← v.entries?).mapM fun (name, v) => do
      return (name, ← StyleSettings.ofValue? v)
    return { s with styles := sortedByName styles }
  | _ => none

/-- The settings of a file, if it is one. -/
def ofText? (t : Text) : Option Settings := do
  (← Toml.ofText? t).foldlM (fun s (name, v) => s.set? name v) {}

end Settings

end YamlListing

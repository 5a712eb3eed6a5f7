import YamlListing.Theme.Palette

set_option autoImplicit false

/-! # Builtin themes

Every builtin theme is a palette around one hue, except `mono`, which sets attributes only and suits
terminals without color. -/

namespace YamlListing

namespace Builtin

/-- The name of the theme that is used when none is asked for. -/
def defaultName : String := "dark"

/-- The names of the builtin themes. -/
def names : List String := ["dark", "light", "ocean", "ember", "mono"]

/-- The palette of a builtin theme, if it has one. -/
def palette? (name : String) : Option Palette :=
  match name with
  | "dark" => some (.generate 265.0 .dark)
  | "light" => some (.generate 265.0 .light)
  | "ocean" => some (.generate 205.0 .dark)
  | "ember" => some (.generate 35.0 .dark)
  | _ => none

/-- The mode of a builtin theme. -/
def mode? (name : String) : Option Mode :=
  match name with
  | "dark" | "ocean" | "ember" | "mono" => some .dark
  | "light" => some .light
  | _ => none

/-- The theme without colors, under a given number. -/
def mono (id : Nat) : Styles :=
  ⟨id, .plain,
    [(.comment, Style.plain.dim.italic),
     (.literalNull, Style.plain.italic),
     (.nameTag, Style.plain.bold),
     (.nameAnchor, Style.plain.underline),
     (.nameAlias, Style.plain.italic.underline),
     (.nameDecorator, Style.plain.italic),
     (.genericInserted, Style.plain.bold),
     (.genericDeleted, Style.plain.dim),
     (.genericError, Style.plain.underline),
     (.punctuationHeading, Style.plain.bold),
     (.textSubtle, Style.plain.dim),
     (.highlight, Style.plain.inverse),
     (.dim, Style.plain.dim),
     (.title, Style.plain.bold)]⟩

/-- A builtin theme, under a given number. -/
def styles? (name : String) (id : Nat) : Option Styles :=
  if name = "mono" then some (mono id) else (palette? name).map fun p => p.styles id

end Builtin

end YamlListing

import YamlListing.Text.Quoted

set_option autoImplicit false

/-! # What can be wrong with a theme that a user describes -/

namespace YamlListing

/-- A reason to refuse a theme. -/
inductive ThemeError where
  /-- A color that is not in hexadecimal notation. -/
  | invalidColor (text : String)
  /-- A name that no category has. -/
  | unknownCategory (name : String)
  /-- A name that no role of a palette has. -/
  | unknownRole (name : String)
  /-- A name under which no theme is registered; the names that are come with it. -/
  | unknownTheme (name : String) (available : List String)
  /-- A name that no builtin palette has. -/
  | unknownBase (name : String)
  deriving DecidableEq, Repr

namespace ThemeError

/-- The wording of an error. -/
def message : ThemeError → String
  | invalidColor text =>
    "invalid color " ++ Text.quotedString text ++ ": expected #rgb, #rrggbb or #rrggbbaa"
  | unknownCategory name => "unknown style category " ++ Text.quotedString name
  | unknownRole name => "unknown palette role " ++ Text.quotedString name
  | unknownTheme name available =>
    "unknown theme " ++ Text.quotedString name ++ "; available: " ++ ", ".intercalate available
  | unknownBase name =>
    "palette base " ++ Text.quotedString name ++ " is not a builtin palette theme"

end ThemeError

end YamlListing

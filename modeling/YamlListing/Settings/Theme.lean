import YamlListing.Settings.Basic
import YamlListing.Theme.Registry

set_option autoImplicit false

/-! # The theme that settings ask for

Settings may register a theme of their own, which is a builtin palette with other colors. They name
the theme to use, and lay styles over it for single categories. -/

namespace YamlListing

namespace StyleSettings

/-- The style that settings describe. -/
def style (s : StyleSettings) : Except ThemeError Style := do
  let color : Option String → Except ThemeError (Option Color)
    | some hex => do return some (← Palette.readColor hex)
    | none => return none
  return { fg := ← color s.fg, bg := ← color s.bg,
           attributes :=
            { bold := s.bold, italic := s.italic, underline := s.underline, dim := s.dim } }

end StyleSettings

namespace PaletteSettings

/-- The palette that settings describe. -/
def palette (s : PaletteSettings) : Except ThemeError Palette := do
  let base := s.base.getD Builtin.defaultName
  match Builtin.palette? base with
  | some p => p.withOverrides s.roles
  | none => .error (.unknownBase base)

end PaletteSettings

namespace Settings

/-- The name of the theme that the settings of a palette make. -/
def customName : String := "custom"

/-- The palette of one's own, if there is one. -/
def customPalette (s : Settings) : Except ThemeError (Option Palette) :=
  match s.palette with
  | some p => some <$> p.palette
  | none => .ok none

/-- Registers the theme of a palette of one's own. -/
def registerCustom (r : Registry) : Option Palette → Registry
  | some p => r.register customName p.mode p.styles
  | none => r

/-- The name of the theme to use, if `asked` is the one asked for elsewhere. -/
def themeName (s : Settings) (asked : Option String) : String :=
  (asked.or s.theme).getD (if s.palette.isSome then customName else Builtin.defaultName)

/-- The styles of single categories. -/
def tweaks (s : Settings) : Except ThemeError (List (Category × Style)) :=
  s.styles.mapM fun (name, style) => do
    match Category.ofName? name with
    | some c => return (c, ← style.style)
    | none => throw (.unknownCategory name)

/-- The theme to use with the styles of single categories laid over it, given the themes that are
    registered. -/
def resolveRegistered (s : Settings) (asked : Option String) (r : Registry) :
    Except ThemeError Styles × Registry :=
  let name := s.themeName asked
  match r.lookup name with
  | (none, r) => (.error (.unknownTheme name r.names), r)
  | (some styles, r) =>
    if s.styles.isEmpty then (.ok styles, r)
    else match s.tweaks with
      | .error e => (.error e, r)
      | .ok tweaks =>
        let (id, r) := r.fresh
        (.ok (styles.withOverrides id tweaks), r)

/-- Registers the theme of a palette of one's own, and resolves the theme to use. -/
def resolve (s : Settings) (asked : Option String) (r : Registry) :
    Except ThemeError Styles × Registry :=
  match s.customPalette with
  | .error e => (.error e, r)
  | .ok custom => s.resolveRegistered asked (registerCustom r custom)

end Settings

end YamlListing

import YamlListing.Theme.Contrast
import YamlListing.Theme.Error
import YamlListing.Theme.Styles

set_option autoImplicit false

/-! # Palettes

A palette gives a color to every role that a theme has. `Palette.generate` lays the roles out around
one hue, with lightness and chroma suited to the mode, and makes those of text readable on the
background. `Palette.styles` says which categories show which roles. -/

namespace YamlListing

/-- A role that a color can have in a theme. -/
inductive Role where
  /-- The ground that text is assumed to stand on. It is never painted. -/
  | background
  | foreground
  | subtle
  | comment
  | accent
  | accent2
  | key
  | string
  | number
  | boolean
  | null
  | anchor
  | decorator
  | punctuation
  | inserted
  | insertedBackground
  | deleted
  | deletedBackground
  | error
  | warning
  | ok
  | highlightBackground
  deriving DecidableEq, Repr

namespace Role

/-- Every role. -/
def all : List Role :=
  [.background, .foreground, .subtle, .comment, .accent, .accent2, .key, .string, .number, .boolean,
   .null, .anchor, .decorator, .punctuation, .inserted, .insertedBackground, .deleted,
   .deletedBackground, .error, .warning, .ok, .highlightBackground]

/-- The name of a role, as settings spell it. -/
def toName : Role → String
  | background => "background"
  | foreground => "foreground"
  | subtle => "subtle"
  | comment => "comment"
  | accent => "accent"
  | accent2 => "accent2"
  | key => "key"
  | string => "string"
  | number => "number"
  | boolean => "boolean"
  | null => "null"
  | anchor => "anchor"
  | decorator => "decorator"
  | punctuation => "punctuation"
  | inserted => "inserted"
  | insertedBackground => "inserted_bg"
  | deleted => "deleted"
  | deletedBackground => "deleted_bg"
  | error => "error"
  | warning => "warning"
  | ok => "ok"
  | highlightBackground => "highlight_bg"

/-- The role with a given name. -/
def ofName? (s : String) : Option Role := all.find? fun r => r.toName == s

/-- The place of a role in `all`. -/
def index (r : Role) : Nat := r.ctorIdx

theorem all_getElem?_index (r : Role) : all[r.index]? = some r := by cases r <;> rfl

end Role

/-- A color for every role, in the order of the roles. -/
structure Palette where
  mode : Mode
  colors : List Color

namespace Palette

/-- The palette that a function describes. -/
def ofFunction (mode : Mode) (f : Role → Color) : Palette := ⟨mode, Role.all.map f⟩

/-- The color of a role. -/
def color (p : Palette) (r : Role) : Color := p.colors.getD r.index .transparent

/-- A palette with another color for a role. -/
def set (p : Palette) (r : Role) (c : Color) : Palette :=
  { p with colors := p.colors.set r.index c }

/-! ## Generation -/

/-- The least contrast of body text. -/
def textContrast : Float := 7.0

/-- The least contrast of syntax. -/
def syntaxContrast : Float := 4.5

/-- The least contrast of what should stand back. -/
def subtleContrast : Float := 3.0

/-- A hue with any number of turns as one between 0 and 360. -/
def wrapHue (h : Float) : Float := Color.withinTurn (Color.withinTurn h + 360.0)

/-- The palette around a hue. -/
def generate (hue : Float) (mode : Mode) : Palette :=
  let tone (dark light chroma h : Float) : Color :=
    Color.toGamut ⟨mode.pick dark light, chroma, wrapHue h, 1.0⟩
  let background := tone 0.18 0.97 0.012 hue
  let readable (c : Color) (least : Float) : Color := Contrast.readable c background least mode
  let syntaxTone (turn chroma : Float) : Color :=
    readable (tone 0.76 0.48 chroma (hue + turn)) syntaxContrast
  ofFunction mode fun
    | .background => background
    | .foreground => readable (tone 0.90 0.25 0.010 hue) textContrast
    | .subtle => readable (tone 0.58 0.62 0.020 hue) subtleContrast
    | .comment => Contrast.commentColor (tone 0.55 0.60 0.030 hue) background mode
    -- Accents and syntax turn with the hue of the theme.
    | .accent => syntaxTone 0.0 0.14
    | .accent2 => syntaxTone 180.0 0.10
    | .key => syntaxTone 0.0 0.11
    | .string => syntaxTone 120.0 0.12
    | .number => syntaxTone 60.0 0.13
    | .boolean => syntaxTone 200.0 0.12
    | .null => syntaxTone 240.0 0.05
    | .anchor => syntaxTone 300.0 0.13
    | .decorator => syntaxTone 330.0 0.09
    | .punctuation => readable (tone 0.66 0.52 0.030 hue) subtleContrast
    -- What these mean does not depend on the theme, so their hues are fixed.
    | .inserted | .ok => readable (tone 0.76 0.45 0.15 145.0) syntaxContrast
    | .insertedBackground => tone 0.30 0.92 0.060 145.0
    | .deleted => readable (tone 0.70 0.48 0.170 25.0) syntaxContrast
    | .deletedBackground => tone 0.30 0.92 0.070 25.0
    | .error => readable (tone 0.66 0.50 0.200 25.0) syntaxContrast
    | .warning => readable (tone 0.82 0.55 0.150 85.0) syntaxContrast
    | .highlightBackground => tone 0.45 0.88 0.100 85.0

/-! ## Colors from settings -/

/-- The color that a string writes in hexadecimal. -/
def readColor (hex : String) : Except ThemeError Color :=
  match Color.ofHex? hex.toList with
  | some c => .ok c
  | none => .error (.invalidColor hex)

/-- A palette with other colors for some roles, both given by name. -/
def withOverrides (p : Palette) : List (String × String) → Except ThemeError Palette
  | [] => .ok p
  | (name, hex) :: rest => do
    let c ← readColor hex
    match Role.ofName? name with
    | some r => (p.set r c).withOverrides rest
    | none => .error (.unknownRole name)

/-! ## Styles -/

/-- The styles of categories for a palette. Output keeps the terminal's own background, and only what
    stands out has one of its own. -/
def overrides (p : Palette) : List (Category × Style) :=
  let fg (r : Role) : Style := .ofForeground (p.color r)
  [(.comment, (fg .comment).italic),
   (.commentPreproc, (fg .accent2).italic),
   (.literalBoolean, fg .boolean),
   (.literalNull, (fg .null).italic),
   (.literalNullImplicit, (fg .null).dim),
   (.literalNumber, fg .number),
   (.literalString, fg .string),
   (.name, fg .key),
   (.nameAnchor, fg .anchor),
   (.nameAlias, (fg .anchor).italic),
   (.nameAliasMerge, Style.plain.bold),
   (.nameTag, (fg .key).bold),
   (.nameDecorator, (fg .decorator).italic),
   (.genericInserted, (fg .inserted).on (p.color .insertedBackground)),
   (.genericDeleted, (fg .deleted).on (p.color .deletedBackground)),
   (.genericError, fg .error),
   (.genericErrorInvalid, Style.plain.underline),
   (.punctuation, fg .punctuation),
   (.punctuationBlock, fg .accent2),
   (.punctuationHeading, (fg .accent).bold),
   (.textAccent, fg .accent),
   (.textAccentDim, Style.plain.dim),
   (.textSubtle, fg .subtle),
   (.textSubtleDim, Style.plain.dim),
   (.highlight, .ofBackground (p.color .highlightBackground)),
   (.dim, Style.plain.dim),
   (.title, Style.plain.bold),
   (.titleOk, fg .ok),
   (.titleWarn, fg .warning),
   (.titleError, fg .error),
   (.titleAccent, fg .accent),
   (.titleSubtle, fg .subtle)]

/-- The theme of a palette, under a given number. -/
def styles (p : Palette) (id : Nat) : Styles :=
  ⟨id, .ofForeground (p.color .foreground), p.overrides⟩

end Palette

end YamlListing

import YamlListing.Color.Basic

set_option autoImplicit false

/-! # Contrast

How readable one color is on another: the ratio of their luminances, from 1 to 21. A generated theme
keeps its text readable by moving lightness in OKLCH, which changes neither hue nor chroma, until the
ratio is right, and it keeps comments inside a band where they stand back. -/

namespace YamlListing

/-- Whether a theme is meant for a dark or for a light background. -/
inductive Mode where
  | dark
  | light
  deriving DecidableEq, Repr, Inhabited

namespace Mode

/-- One of two values, for dark and for light. -/
def pick {α : Type} (m : Mode) (dark light : α) : α :=
  match m with
  | .dark => dark
  | .light => light

/-- The name of a mode. -/
def toName (m : Mode) : String := m.pick "dark" "light"

/-- The mode with a given name. -/
def ofName? (s : String) : Option Mode := [Mode.dark, .light].find? fun m => m.toName == s

end Mode

namespace Contrast

/-- How much light a color gives, from 0 to 1. -/
def luminance (c : Color) : Float :=
  let light := c.toSrgb.map Color.decodeLight
  0.2126 * light.r + (0.7152 * light.g + 0.0722 * light.b)

/-- The contrast of two colors, from 1 to 21, in either order. -/
def ratio (a b : Color) : Float :=
  let x := luminance a
  let y := luminance b
  if x ≥ y then (x + 0.05) / (y + 0.05) else (y + 0.05) / (x + 0.05)

/-- A color with another lightness and full opacity, as a screen can show it. -/
def withLightness (c : Color) (l : Float) : Color := Color.toGamut ⟨l, c.c, c.h, 1.0⟩

/-- Halves the range of lightness from `low` to `high`, `steps` times, towards the smallest change
    that reaches the ratio `least`; `best` is the last color that did. -/
def readableFrom (fg bg : Color) (least : Float) (mode : Mode) :
    (steps : Nat) → (low high : Float) → (best : Color) → Color
  | 0, _, _, best => best
  | steps + 1, low, high, best =>
    let middle := (low + high) * 0.5
    let candidate := withLightness fg middle
    if ratio candidate bg ≥ least then
      match mode with
      | .dark => readableFrom fg bg least mode steps low middle candidate
      | .light => readableFrom fg bg least mode steps middle high candidate
    else
      match mode with
      | .dark => readableFrom fg bg least mode steps middle high best
      | .light => readableFrom fg bg least mode steps low middle best

/-- A color made readable on another: with its lightness moved until their contrast is at least
    `least`, up on a dark background and down on a light one. A color that cannot be made readable
    stays. -/
def readable (fg bg : Color) (least : Float) (mode : Mode) : Color :=
  if ratio fg bg ≥ least then fg.toGamut
  else match mode with
    | .dark => readableFrom fg bg least mode 32 fg.l 1.0 fg
    | .light => readableFrom fg bg least mode 32 0.0 fg.l fg

/-- Halves the range of lightness from `low` to `high`, `steps` times, towards the ratio `target`;
    `best` is the color that came nearest, `off` by how much it missed. -/
def towards (c bg : Color) (target : Float) (mode : Mode) :
    (steps : Nat) → (low high : Float) → (best : Color) → (off : Float) → Color
  | 0, _, _, best, _ => best
  | steps + 1, low, high, best, off =>
    let middle := (low + high) * 0.5
    let candidate := withLightness c middle
    let reached := ratio candidate bg
    let miss := (reached - target).abs
    let (best, off) := if miss < off then (candidate, miss) else (best, off)
    -- With too much contrast, move towards the background: down on dark and up on light.
    if (mode == .dark) == decide (reached > target) then
      towards c bg target mode steps low middle best off
    else towards c bg target mode steps middle high best off

/-- A distance that every other one is below. -/
def farthest : Float := 1.7976931348623157e308

/-- A color for comments: with the contrast that lies in the middle of the band for its mode, which
    is 2.5 to 3.5 on dark and 1.5 to 3 on light. -/
def commentColor (c bg : Color) (mode : Mode) : Color :=
  let target : Float := mode.pick ((2.5 + 3.5) * 0.5) ((1.5 + 3.0) * 0.5)
  towards c bg target mode 32 0.0 1.0 c farthest

end Contrast

end YamlListing

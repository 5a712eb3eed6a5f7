import YamlListing.Style.Basic

set_option autoImplicit false

/-! # Laying one style over another

Where only one of two styles has a color, the result has it too. Where both do, the upper one wins
(`overrideStyle`) or the two are mixed evenly (`blendStyle`). Attributes add up, and the transform of
the upper style runs on what that of the lower one made. -/

namespace YamlListing

/-- The two ways to lay a style over another. -/
inductive ComposeMode where
  | override
  | blend
  deriving DecidableEq, Repr

namespace Style

/-- The share of the upper color where two are mixed. -/
def blendRatio : Float := 0.5

/-- A color over another, either of which may be missing. -/
def pickColor (combine : Color → Color → Color) : (lower upper : Option Color) → Option Color
  | some lower, some upper => some (combine lower upper)
  | some lower, none => some lower
  | none, upper => upper

/-- A transform around another, either of which may be missing. -/
def chainTransforms : (lower upper : Option Transform) → Option Transform
  | some inner, some outer => some (inner.andThen outer)
  | some inner, none => some inner
  | none, outer => outer

/-- Lays a style over another, combining colors that both have. -/
def layer (combine : Color → Color → Color) (lower upper : Style) : Style :=
  { fg := pickColor combine lower.foreground upper.foreground
    bg := pickColor combine lower.background upper.background
    attributes := lower.attributes.union upper.attributes
    transform := chainTransforms lower.transform upper.transform }

/-- Lays a style over another; its colors win. -/
def overrideStyle (lower upper : Style) : Style := layer (fun _ top => top) lower upper

/-- Lays a style over another; colors that both have are mixed. -/
def blendStyle (lower upper : Style) : Style :=
  layer (fun bottom top => bottom.blend top blendRatio) lower upper

/-- Lays a style over another in a given way. -/
def compose (mode : ComposeMode) (lower upper : Style) : Style :=
  match mode with
  | .override => overrideStyle lower upper
  | .blend => blendStyle lower upper

end Style

end YamlListing

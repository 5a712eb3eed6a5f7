import YamlListing.Terminal.Sgr

set_option autoImplicit false

/-! # Writing styled runs

A writer remembers which colors and attributes the terminal has, and writes only what has to change
before the next run of text. A change of attributes starts from a reset, unless none were set. -/

namespace YamlListing.Terminal

/-- The state of the terminal as far as it was written. -/
structure Writer where
  depth : ColorDepth
  foreground : CellColor
  background : CellColor
  attributes : Attributes
  deriving DecidableEq, Repr

namespace Writer

/-- A writer for a terminal in the reset state. -/
def new (depth : ColorDepth) : Writer := ⟨depth, .default, .default, {}⟩

/-- Whether the terminal is in another state than the reset one. -/
def isDirty (w : Writer) : Bool :=
  !w.foreground.isDefault || !w.background.isDefault || !w.attributes.isNone

/-- The color that a terminal shows for a color that may be missing. -/
def shown (w : Writer) : Option Color → CellColor
  | some c => (CellColor.ofColor c).downgrade w.depth
  | none => .default

/-- Changes the attributes. -/
def setAttributes (w : Writer) (a : Attributes) : Text × Writer :=
  if a = w.attributes then ([], w)
  else if w.attributes.isNone then (Sgr.attributes a, { w with attributes := a })
  else
    (Sgr.reset ++ Sgr.attributes a,
      { w with foreground := .default, background := .default, attributes := a })

/-- Changes the foreground. -/
def setForeground (w : Writer) (c : CellColor) : Text × Writer :=
  if c = w.foreground then ([], w) else (Sgr.foreground c, { w with foreground := c })

/-- Changes the background. -/
def setBackground (w : Writer) (c : CellColor) : Text × Writer :=
  if c = w.background then ([], w) else (Sgr.background c, { w with background := c })

/-- Brings the terminal into the state that a style asks for. -/
def apply (w : Writer) (s : Style) : Text × Writer :=
  let (attributes, w₁) := w.setAttributes s.attributes
  let (foreground, w₂) := w₁.setForeground (w.shown s.foreground)
  let (background, w₃) := w₂.setBackground (w.shown s.background)
  (attributes ++ foreground ++ background, w₃)

/-- Writes a run of text in a style. -/
def run (w : Writer) (s : Style) (t : Text) : Text × Writer :=
  let (change, w') := w.apply s
  (change ++ t, w')

/-- Brings the terminal back into the reset state. -/
def finish (w : Writer) : Text × Writer :=
  if w.isDirty then (Sgr.reset, new w.depth) else ([], w)

end Writer

end YamlListing.Terminal

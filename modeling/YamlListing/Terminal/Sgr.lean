import YamlListing.Style.Basic
import YamlListing.Text.Natural

set_option autoImplicit false

/-! # Escape sequences that set graphics

A terminal sets colors and attributes on `ESC [ n ; … m`. `Sgr.style` writes what a style needs from
the reset state, and `strip` takes escape sequences out of a text again. -/

namespace YamlListing.Terminal

namespace Sgr

/-- The sequence with given parameters. -/
def sequence (params : List Nat) : Text :=
  ['\x1b', '['] ++ Text.joinWith [';'] (params.map Text.decimal) ++ ['m']

/-- The sequence that clears all colors and attributes. -/
def reset : Text := sequence [0]

/-- The parameters that set a color. `base` is the parameter of the first classic color, which is
    30 for the foreground and 40 for the background. -/
def colorParams (base : Nat) : CellColor → List Nat
  | .default => [base + 9]
  | .indexed index =>
    let n := index.toNat
    if n < 8 then [base + n]
    else if n < 16 then [base + 52 + n]
    else [base + 8, 5, n]
  | .rgb r g b => [base + 8, 2, r.toNat, g.toNat, b.toNat]

/-- The sequence that sets the foreground. -/
def foreground (c : CellColor) : Text := sequence (colorParams 30 c)

/-- The sequence that sets the background. -/
def background (c : CellColor) : Text := sequence (colorParams 40 c)

/-- The sequence that sets attributes; nothing if there are none. -/
def attributes (a : Attributes) : Text :=
  if a.isNone then [] else sequence (a.labels 1 2 3 4 7 9)

/-- The sequences that a style needs from the reset state. -/
def style (depth : ColorDepth) (s : Style) : Text :=
  let paint (set : CellColor → Text) : Option Color → Text
    | some c => set ((CellColor.ofColor c).downgrade depth)
    | none => []
  attributes s.attributes ++ paint foreground s.foreground ++ paint background s.background

end Sgr

/-! ## Stripping -/

/-- Whether a character ends an escape sequence. -/
def isFinal (c : Char) : Bool := '@' ≤ c && c ≤ '~'

mutual

/-- A text without its escape sequences. -/
def strip : Text → Text
  | [] => []
  | '\x1b' :: '[' :: rest => stripSequence rest
  | c :: rest => c :: strip rest

/-- What is left of a text that begins inside an escape sequence. -/
def stripSequence : Text → Text
  | [] => []
  | c :: rest => if isFinal c then strip rest else stripSequence rest

end

end YamlListing.Terminal

namespace YamlListing.Style

/-- A text in a style on its own, for a terminal with all colors: transformed, and set between the
    sequences of the style and a reset unless there are none. -/
def render (s : Style) (t : Text) : Text :=
  if s.isVisible then
    Terminal.Sgr.style .trueColor s ++ s.transformed t ++ Terminal.Sgr.reset
  else s.transformed t

end YamlListing.Style

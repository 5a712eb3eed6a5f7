import YamlListing.Color.Basic

set_option autoImplicit false

/-! # Colors of terminal cells

A terminal shows 24-bit colors, the 256 colors of its palette, or only the first sixteen of those.
`CellColor.downgrade` maps a color to the nearest one that a terminal has. -/

namespace YamlListing

/-- A color as a terminal knows it. -/
inductive CellColor where
  | rgb (r g b : UInt8)
  /-- A color of the palette; the first sixteen are the classic ones. -/
  | indexed (index : UInt8)
  /-- The terminal's own color. -/
  | default
  deriving DecidableEq, Repr, Inhabited

/-- How many colors a terminal has. -/
inductive ColorDepth where
  | trueColor
  | ansi256
  | ansi16
  deriving DecidableEq, Repr, Inhabited

namespace Palette256

/-- The sixteen classic colors. -/
def classic : List (UInt8 × UInt8 × UInt8) :=
  [(0, 0, 0), (128, 0, 0), (0, 128, 0), (128, 128, 0), (0, 0, 128), (128, 0, 128), (0, 128, 128),
   (192, 192, 192), (128, 128, 128), (255, 0, 0), (0, 255, 0), (255, 255, 0), (0, 0, 255),
   (255, 0, 255), (0, 255, 255), (255, 255, 255)]

/-- The levels of the color cube: none, and then even steps from 95 on. -/
def level (i : Nat) : UInt8 := if i = 0 then 0 else UInt8.ofNat (55 + 40 * i)

/-- The bytes of a color of the palette: the classic ones, a cube of six levels, and grays. -/
def bytes (index : UInt8) : UInt8 × UInt8 × UInt8 :=
  let n := index.toNat
  if n < 16 then classic.getD n (0, 0, 0)
  else if n < 232 then
    (level ((n - 16) / 36), level ((n - 16) % 36 / 6), level ((n - 16) % 6))
  else
    let gray := UInt8.ofNat (8 + 10 * (n - 232))
    (gray, gray, gray)

/-- A color of the palette. -/
def color (index : UInt8) : Color :=
  let (r, g, b) := bytes index
  .ofBytes r g b

/-- The colors of the palette with their indices. -/
def colors : List (UInt8 × Color) :=
  (List.range 256).map fun n => (UInt8.ofNat n, color (UInt8.ofNat n))

/-- The index of the nearest of some colors, the first one if several are equally near; `best` is the
    nearest one so far, at distance `least`. -/
def nearestFrom (target : Color) (best : UInt8) (least : Float) : List (UInt8 × Color) → UInt8
  | [] => best
  | (index, c) :: rest =>
    let d := target.distance c
    if d < least then nearestFrom target index d rest else nearestFrom target best least rest

/-- The index of the nearest of some colors. -/
def nearestOf (target : Color) : List (UInt8 × Color) → UInt8
  | [] => 0
  | (index, c) :: rest => nearestFrom target index (target.distance c) rest

/-- The index of the nearest color of the palette. -/
def nearest (target : Color) : UInt8 := nearestOf target colors

/-- The index of the nearest classic color. -/
def nearestClassic (target : Color) : UInt8 := nearestOf target (colors.take 16)

end Palette256

namespace CellColor

/-- The cell color of a color. A transparent one is the terminal's own; opacity is lost otherwise. -/
def ofColor (c : Color) : CellColor :=
  if c.isTransparent then .default
  else
    let (r, g, b) := c.toBytes
    .rgb r g b

/-- Whether a color is the terminal's own. -/
def isDefault : CellColor → Bool
  | default => true
  | _ => false

/-- The nearest color that a terminal of a given depth has. -/
def downgrade (depth : ColorDepth) (c : CellColor) : CellColor :=
  match depth, c with
  | _, default => default
  | .trueColor, c => c
  | .ansi256, rgb r g b => indexed (Palette256.nearest (.ofBytes r g b))
  | .ansi256, indexed index => indexed index
  | .ansi16, rgb r g b => indexed (Palette256.nearestClassic (.ofBytes r g b))
  | .ansi16, indexed index => indexed (Palette256.nearestClassic (Palette256.color index))

/-- A cell color as a value shown for inspection. -/
def inspect : CellColor → String
  | rgb r g b =>
    String.ofList ('#' :: Color.byteDigits r ++ Color.byteDigits g ++ Color.byteDigits b)
  | indexed index => "ansi(" ++ toString index.toNat ++ ")"
  | default => "default"

end CellColor

end YamlListing

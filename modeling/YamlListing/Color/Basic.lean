import YamlListing.Text.Decimal
import YamlListing.Yaml.Scalar

set_option autoImplicit false

/-! # Colors

A color is a lightness, a chroma and a hue in the perceptual space OKLCH, with an opacity. Themes walk
along hue and lightness in this space, and `Color.blend` mixes two colors on the straight line between
them in its Cartesian form, so that complementary colors meet in gray. A fully transparent color
counts as no color at all.

For a screen, `toSrgb` converts to red, green and blue: from OKLCH to Oklab, through the responses of
the three cones to linear light, and along the transfer curve of sRGB. -/

namespace YamlListing

/-- A color: lightness from 0 to 1, chroma, hue in degrees, and opacity from 0 to 1. -/
structure Color where
  l : Float
  c : Float
  h : Float
  alpha : Float
  deriving Repr, Inhabited

namespace Color

/-! ## Angles and ranges -/

/-- Half a turn in radians. -/
def pi : Float := 3.14159265358979323846

/-- The remainder of an angle after whole turns, with the sign of the angle. -/
def withinTurn (degrees : Float) : Float :=
  let turns := (degrees.abs / 360.0).floor
  let rest := degrees.abs - 360.0 * turns
  let rest := if rest < 0.0 then rest + 360.0 else if rest ≥ 360.0 then rest - 360.0 else rest
  if degrees < 0.0 then -rest else rest

/-- An angle between 0 and 360 degrees in the same direction. -/
def normalizeHue (degrees : Float) : Float :=
  let rest := withinTurn degrees
  if rest < 0.0 then rest + 360.0 else rest

/-- The angle between two directions. -/
def hueDistance (a b : Float) : Float :=
  let d := withinTurn (a - b).abs
  if d > 180.0 then 360.0 - d else d

/-- A number kept between two others. -/
def clamp (low high x : Float) : Float := if x < low then low else if x > high then high else x

/-! ## Oklab -/

/-- A point of Oklab: lightness, green to red, and blue to yellow. -/
structure Lab where
  l : Float
  a : Float
  b : Float
  deriving Repr, Inhabited

/-- Red, green and blue, each from 0 to 1. -/
structure Rgb where
  r : Float
  g : Float
  b : Float
  deriving Repr, Inhabited

/-- The Oklab point of a color. -/
def toLab (x : Color) : Lab :=
  let angle := x.h * (pi / 180.0)
  ⟨x.l, x.c * angle.cos, x.c * angle.sin⟩

/-- The color at an Oklab point. A point without chroma has hue 0. -/
def ofLab (p : Lab) (alpha : Float) : Color :=
  let c := (p.a * p.a + p.b * p.b).sqrt
  if c < 1e-8 then ⟨p.l, c, 0.0, alpha⟩
  else ⟨p.l, c, normalizeHue (Float.atan2 p.b p.a * (180.0 / pi)), alpha⟩

/-- The linear light at an Oklab point. -/
def Lab.toLinear (p : Lab) : Rgb :=
  let l' := p.l + 0.39633778 * p.a + 0.21580376 * p.b
  let m' := p.l - 0.105561346 * p.a - 0.06385417 * p.b
  let s' := p.l - 0.08948418 * p.a - 1.2914855 * p.b
  let l := l' * l' * l'
  let m := m' * m' * m'
  let s := s' * s' * s'
  ⟨4.0767417 * l - 3.3077116 * m + 0.23096994 * s,
   -1.268438 * l + 2.6097574 * m - 0.34131938 * s,
   -0.0041960863 * l - 0.7034186 * m + 1.7076147 * s⟩

/-- The Oklab point of linear light. -/
def Lab.ofLinear (x : Rgb) : Lab :=
  let l := (0.41222147 * x.r + 0.53633255 * x.g + 0.051445995 * x.b).cbrt
  let m := (0.2119035 * x.r + 0.6806995 * x.g + 0.10739696 * x.b).cbrt
  let s := (0.08830246 * x.r + 0.28171884 * x.g + 0.6299787 * x.b).cbrt
  ⟨0.21045426 * l + 0.7936178 * m - 0.004072047 * s,
   1.9779985 * l - 2.4285922 * m + 0.4505937 * s,
   0.025904037 * l + 0.78277177 * m - 0.80867577 * s⟩

/-! ## sRGB -/

/-- The transfer curve of sRGB, from linear light. -/
def encodeLight (x : Float) : Float :=
  if x ≤ 0.0031308 then x * 12.92 else 1.055 * x.pow (1.0 / 2.4) - 0.055

/-- The transfer curve of sRGB undone. -/
def decodeLight (x : Float) : Float :=
  if x ≤ 0.04045 then x / 12.92 else ((x + 0.055) / 1.055).pow 2.4

/-- A function on each component. -/
def Rgb.map (f : Float → Float) (x : Rgb) : Rgb := ⟨f x.r, f x.g, f x.b⟩

/-- The sRGB components of a color; they leave the range from 0 to 1 if no screen can show it. -/
def components (x : Color) : Rgb := x.toLab.toLinear.map encodeLight

/-- The sRGB components of a color, kept between 0 and 1. -/
def toSrgb (x : Color) : Rgb := x.components.map (clamp 0.0 1.0)

/-- The opaque color with given sRGB components. -/
def ofSrgb (x : Rgb) : Color := ofLab (.ofLinear (x.map decodeLight)) 1.0

/-- A component as a byte. -/
def toByte (x : Float) : UInt8 := (clamp 0.0 255.0 (x * 255.0 + 0.5)).toUInt8

/-- A byte as a component. -/
def ofByte (x : UInt8) : Float := x.toNat.toFloat / 255.0

/-- The bytes of a color for a screen. -/
def toBytes (x : Color) : UInt8 × UInt8 × UInt8 :=
  let s := x.toSrgb
  (toByte s.r, toByte s.g, toByte s.b)

/-- The color with given bytes. -/
def ofBytes (r g b : UInt8) : Color := ofSrgb ⟨ofByte r, ofByte g, ofByte b⟩

/-- The color with given bytes and opacity. -/
def ofBytesAlpha (r g b a : UInt8) : Color := { ofBytes r g b with alpha := ofByte a }

/-! ## Constants and queries -/

/-- No color. -/
def transparent : Color := ⟨0.0, 0.0, 0.0, 0.0⟩

/-- Black. -/
def black : Color := ⟨0.0, 0.0, 0.0, 1.0⟩

/-- White. -/
def white : Color := ⟨1.0, 0.0, 0.0, 1.0⟩

/-- Whether a color paints nothing. -/
def isTransparent (x : Color) : Bool := x.alpha ≤ 0.0

/-- Whether a color paints anything. -/
def isVisible (x : Color) : Bool := !x.isTransparent

/-- Whether a color has no hue to speak of. -/
def isAchromatic (x : Color) : Bool := x.c.abs < 1e-5

/-- Whether two colors look the same. Transparent colors all do, and the hue of a color without
    chroma does not count. -/
def same (x y : Color) : Bool :=
  (x.isTransparent && y.isTransparent) ||
    ((x.l - y.l).abs < 1e-4 && (x.c - y.c).abs < 1e-4 && (x.alpha - y.alpha).abs < 1e-4 &&
      (x.isAchromatic || y.isAchromatic || hueDistance x.h y.h < 1e-4))

/-! ## Blending and distance -/

/-- The number at a fraction of the way from one to another. -/
def mix (t x y : Float) : Float := x + (y - x) * t

/-- The color at a fraction of the way from one to another. -/
def blend (x y : Color) (t : Float) : Color :=
  let t := clamp 0.0 1.0 t
  let p := x.toLab
  let q := y.toLab
  ofLab ⟨mix t p.l q.l, mix t p.a q.a, mix t p.b q.b⟩ (mix t x.alpha y.alpha)

/-- How different two colors look. -/
def distance (x y : Color) : Float :=
  let p := x.toLab
  let q := y.toLab
  let l := p.l - q.l
  let a := p.a - q.a
  let b := p.b - q.b
  (l * l + a * a + b * b).sqrt

/-! ## The gamut of a screen -/

/-- Whether a component needs no clamping. -/
def inRange (x : Float) : Bool := 0.0 ≤ x && x ≤ 1.0

/-- Whether a screen can show a color. -/
def inGamut (x : Color) : Bool :=
  let s := x.components
  inRange s.r && inRange s.g && inRange s.b

/-- Halves the range from `low` to `high`, `steps` times, and answers its low end: the greatest chroma
    found that a screen can show. -/
def shownChroma (x : Color) : (steps : Nat) → (low high : Float) → Float
  | 0, low, _ => low
  | steps + 1, low, high =>
    let middle := (low + high) * 0.5
    if inGamut { x with c := middle } then shownChroma x steps middle high
    else shownChroma x steps low middle

/-- A color with its chroma reduced until a screen can show it. -/
def toGamut (x : Color) : Color :=
  if x.inGamut then x else { x with c := shownChroma x 16 0.0 x.c }

/-! ## Hexadecimal notation -/

/-- A byte from its two hexadecimal digits. -/
def hexByte? (high low : Char) : Option UInt8 := do
  return UInt8.ofNat (16 * (← Yaml.hexDigit? high) + (← Yaml.hexDigit? low))

/-- The color with the bytes that hexadecimal digits write: one or two digits for each of red, green
    and blue, and perhaps for the opacity. -/
def ofHexDigits? : Text → Option Color
  | [r, g, b] => do return ofBytes (← hexByte? r r) (← hexByte? g g) (← hexByte? b b)
  | [r, g, b, a] => do
    return ofBytesAlpha (← hexByte? r r) (← hexByte? g g) (← hexByte? b b) (← hexByte? a a)
  | [r, r', g, g', b, b'] => do
    return ofBytes (← hexByte? r r') (← hexByte? g g') (← hexByte? b b')
  | [r, r', g, g', b, b', a, a'] => do
    return ofBytesAlpha (← hexByte? r r') (← hexByte? g g') (← hexByte? b b') (← hexByte? a a')
  | _ => none

/-- The color that a text writes in hexadecimal, with or without a hash in front. -/
def ofHex? : Text → Option Color
  | '#' :: digits => ofHexDigits? digits
  | digits => ofHexDigits? digits

/-- The two hexadecimal digits of a byte. -/
def byteDigits (x : UInt8) : Text :=
  let n := x.toNat
  [Nat.digitChar (n / 16), Nat.digitChar (n % 16)]

/-- A color in hexadecimal; the opacity is written unless it is full. -/
def toHex (x : Color) : Text :=
  let (r, g, b) := x.toBytes
  '#' :: byteDigits r ++ byteDigits g ++ byteDigits b ++
    (if x.alpha ≥ 1.0 then [] else byteDigits (toByte (clamp 0.0 1.0 x.alpha)))

/-- A color as a value shown for inspection. -/
def inspect (x : Color) : String :=
  let lch := Text.fixedString 4 x.l ++ ", " ++ Text.fixedString 4 x.c ++ ", "
    ++ Text.fixedString 1 x.h
  if x.alpha ≥ 1.0 then "Color::oklch(" ++ lch ++ ")"
  else "Color::oklcha(" ++ lch ++ ", " ++ Text.fixedString 2 x.alpha ++ ")"

end Color

end YamlListing

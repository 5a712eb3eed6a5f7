import YamlListing.Text.Basic

set_option autoImplicit false

/-! # Decimal text

Numbers with a fixed number of decimal places. A binary floating-point number is exactly
`m * 2 ^ e` for whole `m` and `e`; its text is that value rounded to the given places, where a tie
goes to the even neighbour. -/

namespace YamlListing.Text

/-- A quotient rounded to the nearest whole number; a tie goes to the even one. -/
def roundDiv (num den : Nat) : Nat :=
  let q := num / den
  let twice := 2 * (num % den)
  if den < twice then q + 1 else if twice < den then q else q + q % 2

/-- The value that a finite floating-point number stands for: its sign, and `m` and `e` such that
    its size is `m * 2 ^ (e - 1074)`. -/
def binaryParts (x : Float) : Bool × Nat × Nat :=
  let bits := x.toBits.toNat
  let unit := Nat.pow 2 52
  let exponent := bits / unit % Nat.pow 2 11
  let fraction := bits % unit
  (Nat.pow 2 63 ≤ bits,
    if exponent = 0 then (fraction, 0) else (fraction + unit, exponent - 1))

/-- The digits of `n / 10 ^ places`, with exactly `places` of them after the point. -/
def placed (places n : Nat) : Text :=
  let unit := Nat.pow 10 places
  let whole := Nat.toDigits 10 (n / unit)
  let fraction := Nat.toDigits 10 (n % unit)
  if places = 0 then whole
  else whole ++ '.' :: List.replicate (places - fraction.length) '0' ++ fraction

/-- A finite floating-point number with `places` decimal places. -/
def fixed (places : Nat) (x : Float) : Text :=
  let (negative, m, e) := binaryParts x
  let n := roundDiv (m * Nat.pow 2 e * Nat.pow 10 places) (Nat.pow 2 1074)
  (if negative then ['-'] else []) ++ placed places n

/-- A finite floating-point number with `places` decimal places, as a string. -/
def fixedString (places : Nat) (x : Float) : String := String.ofList (fixed places x)

end YamlListing.Text

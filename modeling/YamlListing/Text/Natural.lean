import YamlListing.Text.Basic

set_option autoImplicit false

/-! # Natural numbers in decimal

`decimal` writes a number, and `natural?` reads one that fits into 64 bits. -/

namespace YamlListing.Text

/-- A number in decimal, without zeros in front. -/
def decimal (n : Nat) : Text := Nat.toDigits 10 n

/-- The greatest number that fits into 64 bits. -/
def maxNatural : Nat := 18446744073709551615

/-- A text without a plus sign in front of it. -/
def dropPlus : Text → Text
  | '+' :: rest => rest
  | t => t

/-- The number that a text writes: at least one digit, perhaps with a plus sign in front. -/
def natural? (t : Text) : Option Nat :=
  let digits := dropPlus t
  let n := Nat.ofDigitChars 10 digits 0
  if !digits.isEmpty && digits.all Char.isDigit && n ≤ maxNatural then some n else none

theorem isDigit_of_mem_decimal {n : Nat} {c : Char} (h : c ∈ decimal n) : c.isDigit = true :=
  Nat.isDigit_of_mem_toDigits (by decide) (by decide) h

theorem decimal_ne_nil (n : Nat) : decimal n ≠ [] := Nat.toDigits_ne_nil

end YamlListing.Text

import YamlListing.Text.Natural
import YamlListing.Text.Quoted

set_option autoImplicit false

/-! # Ranges of lines

A range of lines is written `A:B`. Either end may be left open, and a single number is the range of
that one line. -/

namespace YamlListing

/-- The lines from the first to the last. -/
structure LineRange where
  first : Nat
  last : Nat
  deriving DecidableEq, Repr

/-- A text that is no range. -/
structure LineRangeError where
  text : Text
  deriving DecidableEq, Repr

/-- The wording of the error. -/
def LineRangeError.message (e : LineRangeError) : String :=
  "invalid line range " ++ String.ofList (Text.quoted e.text) ++ ": expected A:B with 1 <= A <= B"

namespace LineRange

/-- The bound that a text writes; `ifOpen` is that of a text without any. -/
def bound? (ifOpen : Nat) (t : Text) : Option Nat :=
  let t := Text.trim t
  if t.isEmpty then some ifOpen else Text.natural? t

/-- The bounds that a text writes before and after its first colon. Without a colon there is one
    number, which has to be there. -/
def bounds? (t : Text) : Option LineRange :=
  match t.dropWhile (· != ':') with
  | [] => do
    let n ← bound? 0 t
    return ⟨n, n⟩
  | _ :: after => do
    return ⟨← bound? 1 (t.takeWhile (· != ':')), ← bound? Text.maxNatural after⟩

/-- The range that a text writes. Its first line must not be 0 or come after its last. -/
def ofText (t : Text) : Except LineRangeError LineRange :=
  match bounds? t with
  | some r => if 1 ≤ r.first ∧ r.first ≤ r.last then .ok r else .error ⟨t⟩
  | none => .error ⟨t⟩

/-- The first and the last line of a range on a given number of lines. -/
def bounds (r : LineRange) (lineCount : Nat) : Nat × Nat := (r.first, min r.last lineCount)

end LineRange

end YamlListing

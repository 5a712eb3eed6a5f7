import YamlListing.Text.Basic

set_option autoImplicit false

/-! # Scans

A scan takes something off the front of a text, or fails. Scans are put together in `do` notation,
`a <|> b` tries `b` where `a` failed, and `many` repeats one for as long as it takes something off,
which is why it comes to an end. -/

namespace YamlListing

/-- What takes a value off the front of a text. -/
abbrev Scan (α : Type) := StateT Text Option α

namespace Scan

/-- One character of a class. -/
def one (p : Char → Bool) : Scan Char
  | [] => none
  | c :: rest => if p c then some (c, rest) else none

/-- One given character. -/
def sign (c : Char) : Scan Char := one (· == c)

/-- A given text. -/
def exactly (t : Text) : Scan Unit := fun s =>
  if t.isPrefixOf s then some ((), s.drop t.length) else none

/-- A given number of characters of a class. -/
def times (p : Char → Bool) : Nat → Scan Text
  | 0 => return []
  | n + 1 => return (← one p) :: (← times p n)

/-- As many characters of a class as there are. -/
def span (p : Char → Bool) : Scan Text := fun s => some (s.takeWhile p, s.dropWhile p)

/-- The end of the text. -/
def finish : Scan Unit
  | [] => some ((), [])
  | _ :: _ => none

/-- Repeats a scan on a text; answers what it found and the rest. -/
def manyFrom {α : Type} (item : Scan α) (t : Text) : List α × Text :=
  match item t with
  | none => ([], t)
  | some (a, rest) =>
    if _ : rest.length < t.length then
      let (more, rest) := manyFrom item rest
      (a :: more, rest)
    else ([], t)
termination_by t.length

/-- Repeats a scan for as long as it succeeds and takes something off. -/
def many {α : Type} (item : Scan α) : Scan (List α) := fun t => some (manyFrom item t)

/-- One item or more, with separators between them. -/
def separated {α β : Type} (item : Scan α) (separator : Scan β) : Scan (List α) := do
  return (← item) :: (← many (separator *> item))

/-- What a scan finds in a text, if it takes off all of it. -/
def whole? {α : Type} (scan : Scan α) (t : Text) : Option α :=
  match scan t with
  | some (a, []) => some a
  | _ => none

end Scan

end YamlListing

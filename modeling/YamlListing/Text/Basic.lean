import YamlListing.Unicode.Blank

set_option autoImplicit false

/-! # Texts

A text is a list of characters, since everything in this library counts columns in characters.
`byteLength` is its size in UTF-8, `splitOn` and `splitLines` cut it at a separator, `joinLines` puts
lines together, and the trimming functions remove blanks at its ends. Main statement:
`joinLines_splitLines`, cutting into lines loses nothing. -/

namespace YamlListing

open Unicode (isBlank)

/-- A text: a list of characters. -/
abbrev Text := List Char

namespace Text

/-! ## Size -/

/-- The number of bytes that a text takes in UTF-8. -/
def byteLength : Text → Nat
  | [] => 0
  | c :: cs => c.utf8Size + byteLength cs

@[simp] theorem byteLength_nil : byteLength [] = 0 := rfl

@[simp] theorem byteLength_cons (c : Char) (cs : Text) :
    byteLength (c :: cs) = c.utf8Size + byteLength cs := rfl

@[simp] theorem byteLength_append (s t : Text) :
    byteLength (s ++ t) = byteLength s + byteLength t := by
  induction s with
  | nil => simp
  | cons c cs ih => simp only [List.cons_append, byteLength_cons, ih, Nat.add_assoc]

/-! ## Cutting and joining -/

/-- The parts of a text between the occurrences of a separator. There is always at least one. -/
def splitOn (sep : Char) : Text → List Text
  | [] => [[]]
  | c :: cs =>
    if c = sep then [] :: splitOn sep cs
    else match splitOn sep cs with
      | [] => [[c]]
      | part :: parts => (c :: part) :: parts

theorem splitOn_ne_nil (sep : Char) (t : Text) : splitOn sep t ≠ [] := by
  cases t with
  | nil => simp [splitOn]
  | cons c cs =>
    simp only [splitOn]
    split
    · simp
    · split <;> simp

/-- The parts of a text between its line feeds. -/
def splitLines (t : Text) : List Text := splitOn '\n' t

/-- Texts put together with a separator between neighbours. -/
def joinWith (sep : Text) : List Text → Text
  | [] => []
  | [t] => t
  | t :: u :: ts => t ++ sep ++ joinWith sep (u :: ts)

/-- Lines put together with a line feed between neighbours. -/
def joinLines (ts : List Text) : Text := joinWith ['\n'] ts

/-- Cutting at line feeds and joining with line feeds loses nothing. -/
theorem joinLines_splitLines (t : Text) : joinLines (splitLines t) = t := by
  unfold joinLines splitLines
  induction t with
  | nil => rfl
  | cons c cs ih =>
    simp only [splitOn]
    split
    · rename_i h
      cases hs : splitOn '\n' cs with
      | nil => exact absurd hs (splitOn_ne_nil _ _)
      | cons p ps => simp [joinWith, ← hs, ih, h]
    · cases hs : splitOn '\n' cs with
      | nil => exact absurd hs (splitOn_ne_nil _ _)
      | cons p ps =>
        rw [hs] at ih
        cases ps with
        | nil => simpa [joinWith] using ih
        | cons q qs => simpa [joinWith] using ih

/-! ## Blanks at the ends -/

/-- A text without its leading blanks. -/
def trimStart (t : Text) : Text := t.dropWhile isBlank

/-- A text without its trailing blanks. -/
def trimEnd : Text → Text
  | [] => []
  | c :: cs => match trimEnd cs with
    | [] => if isBlank c then [] else [c]
    | rest => c :: rest

/-- A text without the blanks at its ends. -/
def trim (t : Text) : Text := trimEnd (trimStart t)

/-- The first word of a text: what stands between its leading blanks and the next one. -/
def firstWord (t : Text) : Text := (trimStart t).takeWhile (fun c => !isBlank c)

/-- A text without a given last character, or `none` if it does not end in it. -/
def dropLast? (last : Char) : Text → Option Text
  | [] => none
  | [c] => if c = last then some [] else none
  | c :: d :: cs => (dropLast? last (d :: cs)).map (c :: ·)

/-! ## Padding -/

/-- A text with blanks put in front until it has `width` characters. -/
def padStart (width : Nat) (t : Text) : Text := List.replicate (width - t.length) ' ' ++ t

/-- A text with blanks put behind until it has `width` characters. -/
def padEnd (width : Nat) (t : Text) : Text := t ++ List.replicate (width - t.length) ' '

end Text

end YamlListing

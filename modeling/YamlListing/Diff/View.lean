import YamlListing.Diff.Script
import YamlListing.Source.Basic

set_option autoImplicit false

/-! # Diff views

A view shows an edit script as a source of its own, which is listed like any other. It grows line by
line (`DiffView.push`): every line keeps the segments of its own revision, and a deleted or inserted
line is overlaid as such. `DiffView.full` shows every line of both revisions. `DiffView.summary`
shows the changed lines with some unchanged ones around them, and an empty line between parts that do
not touch. -/

namespace YamlListing

/-- What a line of a view is. -/
inductive LineKind where
  | unchanged
  | deleted
  | inserted
  /-- The empty line between two parts of a summary. -/
  | separator
  deriving DecidableEq, Repr

/-- The category that is laid over a line of a kind, if any. -/
def LineKind.category? : LineKind → Option Category
  | .deleted => some .genericDeleted
  | .inserted => some .genericInserted
  | .unchanged | .separator => none

/-- Where a line of a view comes from: its number in the origin and in the tip. -/
structure DiffLine where
  kind : LineKind
  origin : Option Nat
  tip : Option Nat
  deriving DecidableEq, Repr

/-- The provenance of the line that an edit refers to. -/
def Edit.diffLine : Edit → DiffLine
  | .keep origin tip => ⟨.unchanged, some origin, some tip⟩
  | .delete origin => ⟨.deleted, some origin, none⟩
  | .insert tip => ⟨.inserted, none, some tip⟩

/-- A line of a view. -/
structure DiffRow where
  info : DiffLine
  text : Text
  segments : List LineSegment
  deriving DecidableEq, Repr

namespace DiffRow

/-- The empty line between two parts of a summary. -/
def separator : DiffRow := ⟨⟨.separator, none, none⟩, [], []⟩

/-- The line that an edit refers to. -/
def ofEdit (origin tip : Source) (e : Edit) : DiffRow :=
  match e with
  | .keep o _ | .delete o => ⟨e.diffLine, (origin.line? o).getD [], origin.segmentsAt o⟩
  | .insert t => ⟨e.diffLine, (tip.line? t).getD [], tip.segmentsAt t⟩

end DiffRow

/-- A comparison of two revisions as a source, with the provenance of each line. -/
structure DiffView where
  source : Source
  lines : List DiffLine
  /-- For each part of a summary, the lines from its first change to its last. -/
  highlights : List Span
  /-- The number of deleted and inserted lines. -/
  distance : Nat
  deriving DecidableEq, Repr

namespace DiffView

/-- Whether the two revisions have the same lines. -/
def isIdentical (v : DiffView) : Bool := v.distance == 0

/-- The name of a comparison, if both sides have one. -/
def name (origin tip : Source) : Option String :=
  match origin.name, tip.name with
  | some a, some b => some (a ++ " → " ++ b)
  | _, _ => none

/-- A view without lines. -/
def start (origin tip : Source) : DiffView := ⟨.empty (name origin tip), [], [], 0⟩

/-- A view with one more line and what is laid over it. -/
def push (v : DiffView) (row : DiffRow) : DiffView :=
  let source := v.source.pushLine row.text row.segments
  { v with
    source := match row.info.kind.category? with
      | some category => source.addOverlay category (.textLine source.lineCount)
      | none => source
    lines := v.lines ++ [row.info] }

/-- The view that consists of given lines. -/
def ofRows (origin tip : Source) (rows : List DiffRow) (highlights : List Span) (distance : Nat) :
    DiffView :=
  { rows.foldl push (start origin tip) with highlights := highlights, distance := distance }

/-- The edit script between the lines of two sources. -/
def script (origin tip : Source) : List Edit := diffLines origin.lines tip.lines

/-- Every line of both revisions, in the order of the script. -/
def full (origin tip : Source) : DiffView :=
  let edits := script origin tip
  ofRows origin tip (edits.map (DiffRow.ofEdit origin tip)) [] (Edit.distance edits)

/-! ## Summaries -/

/-- A window on a script: the indices from `first` to `last`. -/
structure Window where
  first : Nat
  last : Nat
  deriving DecidableEq, Repr

/-- The windows around the changes of a script that begins at index `i` and ends at index `last`,
    one for each change, with `context` steps on both sides. -/
def windowsFrom (context last : Nat) (i : Nat) : List Edit → List Window
  | [] => []
  | e :: rest =>
    if e.isChange then
      ⟨i - context, min (i + context) last⟩ :: windowsFrom context last (i + 1) rest
    else windowsFrom context last (i + 1) rest

/-- Joins a window to the front of later ones; windows that touch or overlap become one. -/
def joinWindows (current : Window) : List Window → List Window
  | [] => [current]
  | next :: rest =>
    if next.first ≤ current.last + 1 then
      joinWindows ⟨current.first, max current.last next.last⟩ rest
    else current :: joinWindows next rest

/-- The windows of a summary. -/
def windows (context : Nat) (script : List Edit) : List Window :=
  match windowsFrom context (script.length - 1) 0 script with
  | [] => []
  | first :: rest => joinWindows first rest

/-- The steps of a script inside a window. -/
def Window.edits (w : Window) (script : List Edit) : List Edit :=
  (script.drop w.first).take (w.last + 1 - w.first)

/-- The lines from the first change to the last, for steps whose first one stands on line `n`. -/
def changedLines (n : Nat) (edits : List Edit) : Option Span :=
  let before := edits.takeWhile fun e => !e.isChange
  let after := edits.reverse.takeWhile fun e => !e.isChange
  if edits.any Edit.isChange then
    some (.textLines (n + before.length) (n + edits.length - 1 - after.length))
  else none

/-- The changed lines of each part of a summary, the first of which begins on line `n`. -/
def highlightsFrom (n : Nat) : List (List Edit) → List Span
  | [] => []
  | part :: rest => (changedLines n part).toList ++ highlightsFrom (n + part.length + 1) rest

/-- The lines of the parts of a summary, with a separator between neighbours. -/
def partRows (origin tip : Source) : List (List Edit) → List DiffRow
  | [] => []
  | [part] => part.map (DiffRow.ofEdit origin tip)
  | part :: next :: rest =>
    part.map (DiffRow.ofEdit origin tip) ++ .separator :: partRows origin tip (next :: rest)

/-- The changed lines with `context` unchanged lines on both sides of each. -/
def summary (origin tip : Source) (context : Nat) : DiffView :=
  let edits := script origin tip
  let parts := (windows context edits).map (·.edits edits)
  ofRows origin tip (partRows origin tip parts) (highlightsFrom 1 parts) (Edit.distance edits)

end DiffView

end YamlListing

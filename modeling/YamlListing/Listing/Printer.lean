import YamlListing.Listing.Gutter
import YamlListing.Terminal.Control
import YamlListing.Theme.Composer
import YamlListing.Unicode.Width

set_option autoImplicit false

/-! # Printing listings

A line is printed in four steps. Every character first has the handle of the category of its segment,
or that of unclassified text (`baseCells`). The overlays are then blended in, in the order in which
they were laid (`overlayCells`). Neighbours with the same handle make a run (`runsFrom`). Each run is
made visible, transformed and written (`emit`).

Segments without width show nothing of their own; if their style has a transform, what it makes of
the empty text is inserted at their column.

The composer of a printer remembers what it blended from one line to the next. -/

namespace YamlListing

/-- How a listing looks. -/
structure ListingOptions where
  styles : Styles
  gutter : Option Gutter := none
  /-- Show control characters as pictures. -/
  controlEscape : Bool := true
  /-- The distance of tab stops, for tabs that are not shown as pictures. -/
  tabWidth : Nat := 8
  depth : ColorDepth := .trueColor
  /-- The line between spans that do not touch. -/
  separator : Text := []

namespace ListingOptions

/-- The distance of tab stops if none is given. -/
def defaultTabWidth : Nat := 8

/-- Options with another distance of tab stops, which is at least 1. -/
def withTabWidth (o : ListingOptions) (width : Nat) : ListingOptions :=
  { o with tabWidth := max 1 width }

end ListingOptions

/-- Characters of one look, side by side. -/
structure Run where
  handle : Handle
  text : Text

namespace Run

/-- Whether the column `n` lies in the columns from `start` up to `stop`. -/
def inColumns (start stop n : Nat) : Bool := start ≤ n && n < stop

/-! ## Cells -/

/-- Gives a handle to the cells in some columns; the first cell stands in column `n`. -/
def setCells (handle : Handle) (start stop n : Nat) : List Handle → List Handle
  | [] => []
  | cell :: rest =>
    (if inColumns start stop n then handle else cell) :: setCells handle start stop (n + 1) rest

/-- The handles of `length` characters with the segments of their line. -/
def baseCells (styles : Styles) (segments : List LineSegment) (length : Nat) : List Handle :=
  segments.foldl
    (fun cells s =>
      if s.isEmpty then cells else setCells (styles.handle s.category) s.start s.stop 1 cells)
    (List.replicate length (styles.handle .text))

/-- Blends a handle over the cells in some columns; the first cell stands in column `n`. -/
def blendCells (theme : Nat) (upper : Handle) (start stop : Nat) (n : Nat) (composer : Composer) :
    List Handle → List Handle × Composer
  | [] => ([], composer)
  | cell :: rest =>
    let (cell, composer) :=
      if inColumns start stop n then composer.layer theme cell upper .blend else (cell, composer)
    let (rest, composer) := blendCells theme upper start stop (n + 1) composer rest
    (cell :: rest, composer)

/-- The columns that the part of an overlay on line `n` covers, on a line of given length. -/
def overlayColumns (span : Span) (n length : Nat) : Nat × Nat :=
  (if span.start.line < n then 1 else span.start.column,
   if n < span.stop.line then length + 1 else span.stop.column)

/-- Blends overlays over the cells of line `n`, one after the other. -/
def overlayCells (styles : Styles) (n : Nat) (composer : Composer) (cells : List Handle) :
    List Overlay → List Handle × Composer
  | [] => (cells, composer)
  | o :: rest =>
    let (start, stop) := overlayColumns o.span n cells.length
    let (cells, composer) :=
      blendCells styles.id (styles.handle o.category) start stop 1 composer cells
    overlayCells styles n composer cells rest

/-- The handles to insert on a line, each with its column. -/
def insertions (styles : Styles) (segments : List LineSegment) : List (Nat × Handle) :=
  segments.filterMap fun s =>
    let handle := styles.handle s.category
    if s.isEmpty && handle.style.transform.isSome then some (s.start, handle) else none

/-! ## Runs -/

/-- How many of some cells go on with a handle, if at most `limit` of them may. -/
def extent (handle : Handle) (limit : Option Nat) (cells : List (Char × Handle)) : Nat :=
  let length := (cells.takeWhile fun cell => cell.2.same handle).length
  match limit with
  | some limit => min limit length
  | none => length

/-- The runs of a line from a column on. An insertion is due once its column is reached; a run stops
    before the column of the next one. -/
def runsFrom (column : Nat) (inserts : List (Nat × Handle)) (cells : List (Char × Handle)) :
    List Run :=
  match inserts, cells with
  | (due, handle) :: inserts, cells =>
    if due ≤ column then ⟨handle, []⟩ :: runsFrom column inserts cells
    else match cells with
      | [] => []
      | (c, own) :: rest =>
        let n := extent own (some (due - column - 1)) rest
        ⟨own, c :: (rest.take n).map Prod.fst⟩ ::
          runsFrom (column + 1 + n) ((due, handle) :: inserts) (rest.drop n)
  | [], (c, own) :: rest =>
    let n := extent own none rest
    ⟨own, c :: (rest.take n).map Prod.fst⟩ :: runsFrom (column + 1 + n) [] (rest.drop n)
  | [], [] => []
termination_by inserts.length + cells.length
decreasing_by
  all_goals simp only [List.length_cons, List.length_drop, List.length_nil]; omega

/-- The runs of line `n` of a source. -/
def ofLine (styles : Styles) (source : Source) (n : Nat) (composer : Composer) :
    List Run × Composer :=
  let text := (source.line? n).getD []
  let segments := source.segmentsAt n
  let (cells, composer) := overlayCells styles n composer (baseCells styles segments text.length)
    (source.overlaysOn n)
  (runsFrom 1 (insertions styles segments) (text.zip cells), composer)

/-! ## Tabs -/

/-- Replaces tabs by spaces up to the next tab stop, `column` columns to the right of the start of
    the line. Answers the text and the column after it. -/
def expandClusters (tabWidth column : Nat) : List Text → Text × Nat
  | [] => ([], column)
  | cluster :: rest =>
    let (shown, width) :=
      if cluster = ['\t'] then
        let width := tabWidth - column % tabWidth
        (List.replicate width ' ', width)
      else (cluster, Unicode.clusterWidth cluster)
    let (after, column) := expandClusters tabWidth (column + width) rest
    (shown ++ after, column)

/-- Replaces the tabs of a text by spaces. -/
def expandTabs (tabWidth column : Nat) (t : Text) : Text × Nat :=
  expandClusters (max 1 tabWidth) column (Unicode.clusters t)

/-- What a terminal is shown of a text that begins at a column, and the column after it. The column
    matters for tabs only. -/
def visible (o : ListingOptions) (column : Nat) (t : Text) : Text × Nat :=
  if o.controlEscape then (Terminal.escape t, column) else expandTabs o.tabWidth column t

/-! ## Output -/

/-- Writes runs from a column on and brings the terminal back into the reset state. -/
def emit (o : ListingOptions) (w : Terminal.Writer) (column : Nat) : List Run → Text
  | [] => w.finish.1
  | run :: rest =>
    let (shown, column) := visible o column run.text
    let (written, w) := w.run run.handle.style (run.handle.style.transformed shown)
    written ++ emit o w column rest

end Run

/-- The options of a listing and what its composer remembers. -/
structure Printer where
  options : ListingOptions
  composer : Composer

namespace Printer

/-- A printer that remembers nothing. -/
def new (o : ListingOptions) : Printer := ⟨o, .empty⟩

/-- Prints a line. -/
def line (p : Printer) (source : Source) (n : Nat) : Text × Printer :=
  let gutter := match p.options.gutter with
    | some gutter => gutter ⟨source, p.options.styles, p.options.depth⟩ n
    | none => []
  let (runs, composer) := Run.ofLine p.options.styles source n p.composer
  (gutter ++ Run.emit p.options (.new p.options.depth) 0 runs, { p with composer := composer })

/-- Prints lines, with a line feed between neighbours. -/
def lines (p : Printer) (source : Source) : List Nat → Text × Printer
  | [] => ([], p)
  | [n] => p.line source n
  | n :: m :: rest =>
    let (first, p) := p.line source n
    let (others, p) := lines p source (m :: rest)
    (first ++ '\n' :: others, p)

/-- Prints groups of lines, with a separator line between neighbours. -/
def groups (p : Printer) (source : Source) : List (List Nat) → Text × Printer
  | [] => ([], p)
  | [numbers] => p.lines source numbers
  | numbers :: next :: rest =>
    let (first, p) := p.lines source numbers
    let (others, p) := groups p source (next :: rest)
    (first ++ '\n' :: p.options.separator ++ '\n' :: others, p)

/-! ## What to print -/

/-- The numbers of all lines of a source. -/
def allLines (source : Source) : List Nat := Source.numbers 1 source.lineCount

/-- The numbers of the lines from one to another, as far as they exist. -/
def linesWithin (source : Source) (first last : Nat) : List Nat :=
  Source.numbers (max 1 first) (min last source.lineCount)

/-- The numbers of the lines that spans touch, in groups that do not touch one another. -/
def linesTouched (source : Source) (spans : List Span) : List (List Nat) :=
  ((Span.mergeByLines spans).map fun s => linesWithin source s.firstLine s.lastLine).filter
    fun numbers => !numbers.isEmpty

/-- Prints a whole source. A final line feed is printed if its text had one. -/
def print (p : Printer) (source : Source) : Text × Printer :=
  let (out, p) := p.lines source (allLines source)
  (if source.endsWithNewline && !source.isEmpty then out ++ ['\n'] else out, p)

/-- Prints the lines from one to another, as far as they exist. -/
def printSlice (p : Printer) (source : Source) (first last : Nat) : Text × Printer :=
  p.lines source (linesWithin source first last)

/-- Prints the lines that spans touch, with a separator line between groups. -/
def printSpans (p : Printer) (source : Source) (spans : List Span) : Text × Printer :=
  p.groups source (linesTouched source spans)

end Printer

end YamlListing

import YamlListing.Source.Error

set_option autoImplicit false

/-! # Spans

A span is the half-open range from a start position to a stop position. A span over whole lines
stops at column 1 of the line after its last one: that is how "to the end of the line, its line feed
included" is written. `Span.new` refuses a start after its stop.

A span touches the lines from `firstLine` to `lastLine`; `clipToLine` is its part on one of them,
and `mergeByLines` puts spans together whose lines touch. There is a greatest line number, and the
line after it is line 0 (`nextLine`), so no span can stop at the end of the greatest line in this
way. -/

namespace YamlListing

/-- The positions from `start` up to, but not including, `stop`. -/
structure Span where
  start : Position
  stop : Position
  deriving DecidableEq, Repr, Inhabited

namespace Span

/-! ## Line numbers -/

/-- The greatest line number. -/
def maxLine : Nat := 18446744073709551615

/-- The number of the line after a line. Numbers wrap around: what follows the greatest one is 0.
    (Where additions are checked when the program runs, it stops there instead.) -/
def nextLine (n : Nat) : Nat := if n < maxLine then n + 1 else 0

/-- A line number moved by `delta`, kept between 1 and the greatest line number. -/
def shiftLine (delta : Int) (line : Nat) : Nat := max 1 (min maxLine (line + delta).toNat)

/-! ## Making spans -/

/-- The span between two positions, which have to come in order. -/
def new (start stop : Position) : Except SourceError Span :=
  if start ≤ stop then .ok ⟨start, stop⟩ else .error (.reversedSpan start stop)

/-- The span between two positions in either order. -/
def between (p q : Position) : Span := if p ≤ q then ⟨p, q⟩ else ⟨q, p⟩

/-- All of a line. -/
def line (n : Nat) : Span := ⟨.lineStart n, .lineStart (nextLine n)⟩

/-- All of the lines from one to another, in either order. -/
def lines (m n : Nat) : Span := ⟨.lineStart (min m n), .lineStart (nextLine (max m n))⟩

/-- The columns of a line from one up to another, in either order. -/
def onLine (line a b : Nat) : Span := ⟨⟨line, min a b⟩, ⟨line, max a b⟩⟩

/-- The span at a position that contains nothing. -/
def empty (p : Position) : Span := ⟨p, p⟩

/-! ## Relations -/

/-- Whether a span contains nothing. -/
def isEmpty (s : Span) : Bool := s.start == s.stop

/-- Whether a position lies in a span. -/
def contains (s : Span) (p : Position) : Bool := s.start ≤ p && p < s.stop

/-- Whether a span lies within another. -/
def containsSpan (s t : Span) : Bool := s.start ≤ t.start && t.stop ≤ s.stop

/-- Whether two spans reach into each other. -/
def intersects (s t : Span) : Bool := s.start < t.stop && t.start < s.stop

/-- The order of two spans: by start and then by stop. -/
def compare (s t : Span) : Ordering := (s.start.compare t.start).then (s.stop.compare t.stop)

/-! ## Lines -/

/-- The first line that a span touches. -/
def firstLine (s : Span) : Nat := s.start.line

/-- The last line that a span touches. One that stops at column 1 of a later line does not touch
    that line. -/
def lastLine (s : Span) : Nat :=
  if s.stop.column ≤ 1 ∧ s.start.line < s.stop.line then s.stop.line - 1 else s.stop.line

/-- The number of lines that a span touches. Like line numbers, it wraps around. -/
def lineCount (s : Span) : Nat := (s.lastLine + 1 + (maxLine + 1 - s.firstLine)) % (maxLine + 1)

/-- The part of a span on a line, if it touches that line, where `next` is the line after. The part
    may stop at column 1 of that line, which means through the end of this one. -/
def clipBefore (s : Span) (n next : Nat) : Option Span :=
  if n < s.firstLine ∨ s.lastLine < n then none
  else some ⟨max s.start (.lineStart n), min s.stop (.lineStart next)⟩

/-- The part of a span on a line, if it touches that line. -/
def clipToLine (s : Span) (n : Nat) : Option Span := s.clipBefore n (nextLine n)

/-- The part of a span inside bounds, if there is one. A span that contains nothing stays if it
    sits inside the bounds. -/
def clipTo (s bounds : Span) : Option Span :=
  let start := max s.start bounds.start
  let stop := min s.stop bounds.stop
  if start < stop ∨ (start = stop ∧ bounds.contains start) then some ⟨start, stop⟩ else none

/-- A span with its line numbers moved by `delta`. -/
def shiftLines (s : Span) (delta : Int) : Span :=
  ⟨{ s.start with line := shiftLine delta s.start.line },
   { s.stop with line := shiftLine delta s.stop.line }⟩

/-! ## Lines of a text

A text has fewer lines than there are line numbers, so what comes after its last line has a number
too. On these lines no number wraps around. -/

/-- All of a line of a text. -/
def textLine (n : Nat) : Span := ⟨.lineStart n, .lineStart (n + 1)⟩

/-- All of the lines of a text from one to another, in either order. -/
def textLines (m n : Nat) : Span := ⟨.lineStart (min m n), .lineStart (max m n + 1)⟩

/-- The part of a span on a line of a text, if it touches that line. -/
def clipToTextLine (s : Span) (n : Nat) : Option Span := s.clipBefore n (n + 1)

/-! ## Merging -/

/-- Joins a span to the front of merged ones whose starts come later: if the next one begins on a
    line that the span touches, or on the line after, the two become one. -/
def mergeInto (current : Span) : List Span → List Span
  | [] => [current]
  | next :: rest =>
    if next.firstLine ≤ nextLine current.lastLine then
      mergeInto ⟨current.start, max current.stop next.stop⟩ rest
    else current :: mergeInto next rest

/-- Sorts spans and merges those whose lines touch or overlap. -/
def mergeByLines (spans : List Span) : List Span :=
  match spans.mergeSort (fun s t => (s.compare t).isLE) with
  | [] => []
  | first :: rest => mergeInto first rest

/-! ## Wording -/

/-- A span as `l:c-l:c`. -/
def toText (s : Span) : String := s.start.toText ++ "-" ++ s.stop.toText

/-- A span as a value shown for inspection. -/
def inspect (s : Span) : String := "Span(" ++ s.start.toText ++ ".." ++ s.stop.toText ++ ")"

end Span

end YamlListing

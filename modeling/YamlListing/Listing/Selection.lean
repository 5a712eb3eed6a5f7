import YamlListing.Listing.LineRange
import YamlListing.Listing.Printer

set_option autoImplicit false

/-! # What a listing shows

A listing shows a whole source, a range of its lines, or the lines that some spans touch. If it shows
anything it ends with a line feed. -/

namespace YamlListing

/-- A choice of lines. -/
inductive Selection where
  | whole
  | range (r : LineRange)
  /-- The lines that spans touch. -/
  | touched (spans : List Span)

namespace Selection

/-- A text that ends with a line feed unless it is empty. -/
def terminated (t : Text) : Text :=
  if t.isEmpty || t.getLast? == some '\n' then t else t ++ ['\n']

/-- Prints what is chosen of a source. -/
def print (p : Printer) (source : Source) : Selection → Text
  | whole => terminated (p.print source).1
  | range r =>
    let (first, last) := r.bounds source.lineCount
    terminated (p.printSlice source first last).1
  | touched spans => terminated (p.printSpans source spans).1

/-- The numbers of the lines that are printed, in order. -/
def lines (source : Source) : Selection → List Nat
  | whole => Printer.allLines source
  | range r =>
    let (first, last) := r.bounds source.lineCount
    Printer.linesWithin source first last
  | touched spans => (Printer.linesTouched source spans).flatten

end Selection

end YamlListing

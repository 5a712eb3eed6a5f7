import YamlListing.Position

set_option autoImplicit false

/-! # What can be wrong with spans, segments and line numbers -/

namespace YamlListing

/-- A reason to refuse a span, a list of segments or a line number. -/
inductive SourceError where
  /-- A span would start after its end. -/
  | reversedSpan (start stop : Position)
  /-- Two segments of a line claim the same columns. -/
  | overlappingSegments (line : Nat) (first second : Nat × Nat)
  /-- A text has no such line. -/
  | lineOutOfRange (line count : Nat)
  deriving DecidableEq, Repr

namespace SourceError

/-- Two columns as `(a, b)`. -/
private def columns (c : Nat × Nat) : String :=
  "(" ++ toString c.1 ++ ", " ++ toString c.2 ++ ")"

/-- The wording of an error. -/
def message : SourceError → String
  | reversedSpan start stop =>
    "invalid span: start " ++ start.toText ++ " is after end " ++ stop.toText
  | overlappingSegments line first second =>
    "overlapping segments on line " ++ toString line ++ ": columns " ++ columns first ++ " and "
      ++ columns second
  | lineOutOfRange line count =>
    "line " ++ toString line ++ " is out of range (source has " ++ toString count ++ " lines)"

end SourceError

end YamlListing

import YamlListing.Text.Quoted
import YamlListing.Yaml.Segment

set_option autoImplicit false

/-! # Sources

A source is a list of lines with what a listing shows on them: for each line its classified
segments, and over all lines an ordered list of overlays, categories laid over spans. Lines are
numbered from 1. Overlays never reach beyond the lines that exist. -/

namespace YamlListing

/-- The columns from `start` up to `stop` of a line, with their category. If the two are equal the
    segment has no width. -/
structure LineSegment where
  start : Nat
  stop : Nat
  category : Category
  deriving DecidableEq, Repr

namespace LineSegment

/-- Whether a segment has no width. -/
def isEmpty (s : LineSegment) : Bool := s.start == s.stop

/-- The span of a segment of a given line. -/
def span (s : LineSegment) (line : Nat) : Span := .onLine line s.start s.stop

end LineSegment

/-- A category laid over a span. -/
structure Overlay where
  category : Category
  span : Span
  deriving DecidableEq, Repr

/-- Lines with their segments and overlays. -/
structure Source where
  name : Option String
  lines : List Text
  /-- Whether the text ended with a line feed. -/
  endsWithNewline : Bool
  /-- The segments of each line. -/
  segments : List (List LineSegment)
  /-- Whether segments were attached. -/
  classified : Bool
  overlays : List Overlay
  deriving DecidableEq, Repr

namespace Source

/-! ## Making sources -/

/-- A source with the given lines and nothing on them. -/
def ofLines (lines : List Text) (name : Option String) : Source :=
  ⟨name, lines, false, lines.map (fun _ => []), false, []⟩

/-- A source without lines. -/
def empty (name : Option String) : Source := ofLines [] name

/-- A line without the carriage return before its line feed. -/
def dropReturn (line : Text) : Text := (Text.dropLast? '\r' line).getD line

/-- Whether a text ends with a line feed. -/
def endsWithLineFeed (t : Text) : Bool := t.getLast? == some '\n'

/-- The source of a text. A final line feed ends the last line and begins no other; a carriage
    return at the end of a line is dropped. -/
def ofText (t : Text) (name : Option String) : Source :=
  let lines := if t.isEmpty then [] else
    (Text.splitLines ((Text.dropLast? '\n' t).getD t)).map dropReturn
  { ofLines lines name with endsWithNewline := endsWithLineFeed t }

/-- A source with one more line at its end. -/
def pushLine (s : Source) (text : Text) (segments : List LineSegment) : Source :=
  { s with
    lines := s.lines ++ [text]
    segments := s.segments ++ [segments]
    classified := s.classified || !segments.isEmpty }

/-! ## Lines -/

/-- The number of lines. -/
def lineCount (s : Source) : Nat := s.lines.length

/-- Whether there are no lines. -/
def isEmpty (s : Source) : Bool := s.lines.isEmpty

/-- The entry for line `n` of a list that has one entry per line. -/
def atLine {α : Type} (entries : List α) (n : Nat) : Option α :=
  if n = 0 then none else entries[n - 1]?

/-- A line, if it exists. -/
def line? (s : Source) (n : Nat) : Option Text := atLine s.lines n

/-- A line, or the error that there is no such line. -/
def line (s : Source) (n : Nat) : Except SourceError Text :=
  match s.line? n with
  | some text => .ok text
  | none => .error (.lineOutOfRange n s.lineCount)

/-- The segments of a line; none if it does not exist. -/
def segmentsAt (s : Source) (n : Nat) : List LineSegment := (atLine s.segments n).getD []

/-- The whole text, ended the way it was given. -/
def text (s : Source) : Text :=
  Text.joinLines s.lines ++ (if s.endsWithNewline then ['\n'] else [])

/-- The numbers of the lines from one to another. -/
def numbers (first last : Nat) : List Nat := List.range' first (last + 1 - first)

/-- The characters of a line that a span covers. -/
def covered (span : Span) (n : Nat) (text : Text) : Text :=
  match span.clipToTextLine n with
  | none => []
  | some clip =>
    let skipped := clip.start.column - 1
    if n < clip.stop.line then text.drop skipped
    else (text.drop skipped).take (clip.stop.column - 1 - skipped)

/-- The text that a span covers, as far as it lies on lines that exist. -/
def substring (s : Source) (span : Span) : Text :=
  Text.joinLines ((numbers (max 1 span.firstLine) (min span.lastLine s.lineCount)).filterMap
    fun n => (s.line? n).map (covered span n))

/-! ## Segments -/

/-- The part of a segment on a line of the given width. A part that covers nothing is dropped,
    unless the whole segment covers nothing. -/
def partOn (segment : Yaml.Segment) (n width : Nat) : Option LineSegment :=
  match segment.span.clipToTextLine n with
  | none => none
  | some clip =>
    let start := clip.start.column
    let stop := if n < clip.stop.line then width + 1 else clip.stop.column
    if start = stop ∧ !segment.span.isEmpty then none else some ⟨start, stop, segment.category⟩

/-- Orders the segments of a line by start and then by stop; equal ones keep their order. -/
def sortSegments (segments : List LineSegment) : List LineSegment :=
  segments.mergeSort fun a b => a.start < b.start || (a.start == b.start && a.stop ≤ b.stop)

/-- The parts of segments on a line of the given width, in order. -/
def partsOn (segments : List Yaml.Segment) (n : Nat) (text : Text) : List LineSegment :=
  sortSegments (segments.filterMap fun segment => partOn segment n text.length)

/-- The first two neighbours of which the first reaches past the start of the second. -/
def firstClash? : List LineSegment → Option (LineSegment × LineSegment)
  | a :: b :: rest => if b.start < a.stop then some (a, b) else firstClash? (b :: rest)
  | _ => none

/-- The error for the first line on which two segments clash. -/
def clashIn? (n : Nat) : List (List LineSegment) → Option SourceError
  | [] => none
  | segments :: rest =>
    match firstClash? segments with
    | some (a, b) => some (.overlappingSegments n (a.start, a.stop) (b.start, b.stop))
    | none => clashIn? (n + 1) rest

/-- The parts of segments on each line. -/
def partTable (s : Source) (segments : List Yaml.Segment) : List (List LineSegment) :=
  s.lines.mapIdx fun i text => partsOn segments (i + 1) text

/-- Attaches segments in place of any earlier ones, cut into parts by lines. Segments may not
    overlap. -/
def attach (s : Source) (segments : List Yaml.Segment) : Except SourceError Source :=
  let table := s.partTable segments
  match clashIn? 1 table with
  | some error => .error error
  | none => .ok { s with segments := table, classified := true }

/-- The number of segments on all lines. -/
def segmentCount (s : Source) : Nat := s.segments.flatten.length

/-- Classifies the lines as YAML and attaches the segments. -/
def classify (s : Source) : Except SourceError Source :=
  s.attach (Yaml.Segment.ofText (Text.joinLines s.lines))

/-! ## Overlays -/

/-- The span of all lines. -/
def bounds (s : Source) : Span := .between .first (.lineStart (s.lineCount + 1))

/-- Lays a category over a span, on top of earlier ones. The span is clipped to the lines, and one
    that lies outside of them is dropped. -/
def addOverlay (s : Source) (category : Category) (span : Span) : Source :=
  match span.clipTo s.bounds with
  | none => s
  | some span => { s with overlays := s.overlays ++ [⟨category, span⟩] }

/-- Lays a category over spans, one after the other. -/
def addOverlays (s : Source) (category : Category) (spans : List Span) : Source :=
  spans.foldl (fun s span => s.addOverlay category span) s

/-- The parts of the overlays on a line, in the order they were laid. -/
def overlaysOn (s : Source) (n : Nat) : List Overlay :=
  s.overlays.filterMap fun o => (o.span.clipToTextLine n).map (Overlay.mk o.category)

/-! ## Slices -/

/-- The lines from `first` to `last` as a source of its own, numbered from 1. -/
def slice (s : Source) (first last : Nat) : Source :=
  let first := max 1 first
  let last := min last s.lineCount
  if last < first then empty s.name
  else
    { name := s.name
      lines := (s.lines.drop (first - 1)).take (last + 1 - first)
      endsWithNewline := false
      segments := (s.segments.drop (first - 1)).take (last + 1 - first)
      classified := s.classified
      overlays := s.overlays.filterMap fun o =>
        (o.span.clipTo (.textLines first last)).map fun span =>
          ⟨o.category, span.shiftLines (-((first - 1 : Nat) : Int))⟩ }

/-! ## Wording -/

/-- A source as a value shown for inspection: its name and how much there is of everything. -/
def inspect (s : Source) : String :=
  let name := match s.name with
    | some name => "Some(" ++ Text.quotedString name ++ ")"
    | none => "None"
  "Source \x7b name: " ++ name ++ ", lines: " ++ toString s.lineCount ++ ", classified: "
    ++ toString s.classified ++ ", overlays: " ++ toString s.overlays.length ++ " \x7d"

end Source

end YamlListing

import YamlListing.Search.Normalizer
import YamlListing.Source.Basic

set_option autoImplicit false

/-! # Finding text

A finder folds every line of a source once, when the source is loaded, and keeps beside each folded
character the column that it comes from. A query is folded the same way and looked for on each line;
every hit is told as a span of the source.

A finder does not own its source. When the source is gone it finds nothing. -/

namespace YamlListing

/-- A folded line: its characters, each with the column that it comes from. -/
abbrev FoldedLine := List (Char × Nat)

namespace FoldedLine

/-- Folds the characters of a line from a given column on. -/
def ofTextFrom (n : Normalizer) (column : Nat) : Text → FoldedLine
  | [] => []
  | c :: rest => (n.normalizeChar c).map (·, column) ++ ofTextFrom n (column + 1) rest

/-- Folds a line. -/
def ofText (n : Normalizer) (line : Text) : FoldedLine := ofTextFrom n 1 line

/-- The folded text. -/
def text (l : FoldedLine) : Text := l.map Prod.fst

/-- The columns that a needle at the start of a folded line would come from: the first, and the one
    after the last. `none` if it does not stand there. -/
def hitAt? (needle : Text) (l : FoldedLine) : Option (Nat × Nat) :=
  if needle.isPrefixOf (text l) then
    match l.head?, (l.take needle.length).getLast? with
    | some (_, first), some (_, last) => some (first, last + 1)
    | _, _ => none
  else none

/-- The hits of a needle from left to right, after `skip` characters. The search goes on after the
    last character of each hit. -/
def hitsFrom (needle : Text) (skip : Nat) : FoldedLine → List (Nat × Nat)
  | [] => []
  | c :: rest =>
    match skip with
    | skip + 1 => hitsFrom needle skip rest
    | 0 =>
      match hitAt? needle (c :: rest) with
      | some hit => hit :: hitsFrom needle (needle.length - 1) rest
      | none => hitsFrom needle 0 rest

/-- Drops every hit that begins before the column where the one kept last stopped. Characters that
    come from one column can belong to two hits. -/
def disjoint (stop : Nat) : List (Nat × Nat) → List (Nat × Nat)
  | [] => []
  | hit :: rest => if hit.1 < stop then disjoint stop rest else hit :: disjoint hit.2 rest

/-- The columns of the hits of a needle. -/
def hits (needle : Text) (l : FoldedLine) : List (Nat × Nat) := disjoint 0 (hitsFrom needle 0 l)

end FoldedLine

/-- A normalizer, the source that was loaded if it still exists, and its folded lines. -/
structure Finder where
  normalizer : Normalizer
  source : Option Source
  index : List FoldedLine

namespace Finder

/-- A finder without a source. -/
def new (n : Normalizer) : Finder := ⟨n, none, []⟩

/-- The folded lines of a source. -/
def indexOf (n : Normalizer) (source : Option Source) : List FoldedLine :=
  (source.map fun s => s.lines.map (FoldedLine.ofText n)).getD []

/-- Loads a source in place of any other. -/
def load (f : Finder) (s : Source) : Finder := ⟨f.normalizer, some s, indexOf f.normalizer (some s)⟩

/-- Changes the normalizer and folds the lines again. -/
def setNormalizer (f : Finder) (n : Normalizer) : Finder := ⟨n, f.source, indexOf n f.source⟩

/-- What a finder becomes when its source ceases to exist. -/
def forget (f : Finder) : Finder := { f with source := none }

/-- Whether there is a source. -/
def isLoaded (f : Finder) : Bool := f.source.isSome

/-- The number of bytes of the folded lines. -/
def indexBytes (f : Finder) : Nat := Text.byteLength (f.index.flatMap FoldedLine.text)

/-- The hits of a query, line by line. A query of which nothing is left when it is folded has
    none. -/
def find (f : Finder) (query : Text) : List Span :=
  let needle := f.normalizer.normalize query
  if needle.isEmpty || !f.isLoaded then []
  else (f.index.mapIdx fun i l =>
    (FoldedLine.hits needle l).map fun hit => Span.onLine (i + 1) hit.1 hit.2).flatten

end Finder

end YamlListing

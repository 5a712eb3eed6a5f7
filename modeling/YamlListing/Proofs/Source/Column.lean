import YamlListing.Proofs.Source.Parts
import YamlListing.Style.Compose
import YamlListing.Theme.Styles

set_option autoImplicit false

/-! # What lies on a column

A position of a source has the category of the segment that covers it, and a style: that of its
category with those of the overlays that contain it blended over, in the order in which they were
laid. -/

namespace YamlListing

namespace LineSegment

/-- The category of a column: that of the last segment that covers it, or plain text. -/
def categoryAt (segments : List LineSegment) (column : Nat) : Category :=
  ((segments.reverse.find? (·.covers column)).map (·.category)).getD .text

theorem categoryAt_append_singleton (segments : List LineSegment) (s : LineSegment)
    (column : Nat) : categoryAt (segments ++ [s]) column =
      if s.covers column then s.category else categoryAt segments column := by
  rw [categoryAt, List.reverse_append, List.reverse_singleton, List.singleton_append,
    List.find?_cons]
  cases s.covers column <;> rfl

end LineSegment

namespace Source

/-- The category of a position. -/
def categoryAt (s : Source) (p : Position) : Category :=
  LineSegment.categoryAt (s.segmentsAt p.line) p.column

/-- A style with those of the overlays that contain a position blended over, one after the other. -/
def blendOverlays (styles : Styles) (p : Position) (overlays : List Overlay) (style : Style) :
    Style :=
  (overlays.filter (·.span.contains p)).foldl
    (fun style o => style.blendStyle (styles.style o.category)) style

/-- The style of a position: that of its category with those of the overlays. -/
def styleAt (s : Source) (styles : Styles) (p : Position) : Style :=
  blendOverlays styles p s.overlays (styles.style (s.categoryAt p))

theorem blendOverlays_cons (styles : Styles) (p : Position) (o : Overlay) (rest : List Overlay)
    (style : Style) : blendOverlays styles p (o :: rest) style =
      blendOverlays styles p rest
        (if o.span.contains p then style.blendStyle (styles.style o.category) else style) := by
  rw [blendOverlays, List.filter_cons]
  split <;> rfl

end Source

end YamlListing

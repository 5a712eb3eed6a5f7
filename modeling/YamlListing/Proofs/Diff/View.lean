import YamlListing.Proofs.Source.WellFormed

set_option autoImplicit false

/-! # How a view is put together

A view grows line by line, and what is laid over a line is clipped to the lines that the view has so
far. The line is the last of these, so nothing is cut off (`clipTo_bounds_line`): texts, segments,
provenance and overlays of a view all say the same about every line (`IsMadeOf`), and this is kept by
every line that is added (`IsMadeOf.push`). -/

namespace YamlListing

/-! ## Lines of a view -/

/-- Whether a line of a view was deleted or inserted. -/
def LineKind.isChange : LineKind → Bool
  | .deleted | .inserted => true
  | .unchanged | .separator => false

/-- The overlays of deleted and inserted lines, each over all of its line, in the order of the
lines. -/
def changeOverlays (lines : List DiffLine) : List Overlay :=
  (lines.zipIdx 1).filterMap fun l =>
    l.1.kind.category?.map fun category => ⟨category, .textLine l.2⟩

@[simp] theorem changeOverlays_nil : changeOverlays [] = [] := rfl

theorem changeOverlays_append_singleton (lines : List DiffLine) (line : DiffLine) :
    changeOverlays (lines ++ [line]) = changeOverlays lines ++
      (line.kind.category?.map fun category =>
        (⟨category, .textLine (lines.length + 1)⟩ : Overlay)).toList := by
  rw [changeOverlays, List.zipIdx_append, List.filterMap_append, Nat.add_comm 1]
  cases h : line.kind.category? <;> simp [changeOverlays, h]

@[simp] theorem info_ofEdit (origin tip : Source) (e : Edit) :
    (DiffRow.ofEdit origin tip e).info = e.diffLine := by
  cases e <;> rfl

namespace DiffView

/-- The lines of a view, each with its text and its segments. -/
def rows (v : DiffView) : List DiffRow :=
  (v.lines.zip (v.source.lines.zip v.source.segments)).map fun l => ⟨l.1, l.2.1, l.2.2⟩

/-- Whether every line of a view has a provenance, a text and segments. -/
structure IsAligned (v : DiffView) : Prop where
  texts : v.source.lines.length = v.lines.length
  segments : v.source.segments.length = v.lines.length

/-- Whether a view shows given lines and nothing else. -/
structure IsMadeOf (v : DiffView) (rows : List DiffRow) : Prop where
  lines : v.lines = rows.map (·.info)
  texts : v.source.lines = rows.map (·.text)
  segments : v.source.segments = rows.map (·.segments)
  overlays : v.source.overlays = changeOverlays v.lines

/-! ## Adding a line -/

/-- A line that a source has lies within it as a whole. -/
theorem clipTo_bounds_line {s : Source} {n : Nat} (hn : 1 ≤ n) (hcount : n ≤ s.lineCount) :
    (Span.textLine n).clipTo s.bounds = some (.textLine n) := by
  rw [Source.bounds_eq]
  refine Span.clipTo_eq_self ?_ ?_ (Or.inl (Nat.lt_succ_self n))
  · simp only [Position.le_def, Position.lineStart, Span.textLine]
    omega
  · simp only [Position.le_def, Position.lineStart, Span.textLine]
    omega

variable {v : DiffView} {rows : List DiffRow}

theorem IsMadeOf.isAligned (h : v.IsMadeOf rows) : v.IsAligned :=
  ⟨by rw [h.texts, h.lines, List.length_map, List.length_map],
    by rw [h.segments, h.lines, List.length_map, List.length_map]⟩

theorem start_isMadeOf (origin tip : Source) : (start origin tip).IsMadeOf [] :=
  ⟨rfl, rfl, rfl, rfl⟩

/-- What is laid over the last line of a source is not clipped. -/
theorem addOverlay_lastLine {s : Source} (hne : 1 ≤ s.lineCount) (category : Category) :
    s.addOverlay category (.textLine s.lineCount) =
      { s with overlays := s.overlays ++ [⟨category, .textLine s.lineCount⟩] } := by
  rw [Source.addOverlay, clipTo_bounds_line hne (Nat.le_refl _)]

theorem push_eq (v : DiffView) (row : DiffRow) :
    v.push row =
      { v with
        source := { v.source.pushLine row.text row.segments with
          overlays := v.source.overlays ++ (row.info.kind.category?.map fun category =>
            (⟨category, .textLine (v.source.lines.length + 1)⟩ : Overlay)).toList }
        lines := v.lines ++ [row.info] } := by
  have hcount : (v.source.pushLine row.text row.segments).lineCount = v.source.lines.length + 1 := by
    rw [Source.lineCount, Source.pushLine, List.length_append, List.length_singleton]
  rw [push]
  cases row.info.kind.category? with
  | none =>
    simp only [Option.map_none, Option.toList_none, List.append_nil]
    rfl
  | some category =>
    simp only
    rw [addOverlay_lastLine (by omega), hcount]
    rfl

/-- A line that is added comes after those that a view shows already. -/
theorem IsMadeOf.push (h : v.IsMadeOf rows) (row : DiffRow) :
    (v.push row).IsMadeOf (rows ++ [row]) := by
  rw [push_eq]
  refine ⟨?_, ?_, ?_, ?_⟩
  · simp [h.lines]
  · simp [Source.pushLine, h.texts]
  · simp [Source.pushLine, h.segments]
  · simp only [changeOverlays_append_singleton]
    rw [h.overlays, h.isAligned.texts]

theorem IsMadeOf.foldl_push (h : v.IsMadeOf rows) (more : List DiffRow) :
    (more.foldl DiffView.push v).IsMadeOf (rows ++ more) := by
  induction more generalizing v rows with
  | nil => simpa using h
  | cons row more ih => simpa using ih (h.push row)

theorem ofRows_isMadeOf (origin tip : Source) (rows : List DiffRow) (highlights : List Span)
    (distance : Nat) : (ofRows origin tip rows highlights distance).IsMadeOf rows := by
  have h := (start_isMadeOf origin tip).foldl_push rows
  exact ⟨h.lines, h.texts, h.segments, h.overlays⟩

theorem full_isMadeOf (origin tip : Source) :
    (full origin tip).IsMadeOf ((script origin tip).map (DiffRow.ofEdit origin tip)) :=
  ofRows_isMadeOf origin tip _ _ _

theorem lines_full (origin tip : Source) :
    (full origin tip).lines = (script origin tip).map Edit.diffLine := by
  rw [(full_isMadeOf origin tip).lines, List.map_map]
  exact List.map_congr_left fun e _ => info_ofEdit origin tip e

end DiffView

end YamlListing

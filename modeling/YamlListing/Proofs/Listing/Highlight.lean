import YamlListing.Proofs.Listing.Line
import YamlListing.Proofs.Source.WellFormed

set_option autoImplicit false

/-! # A single highlight

Under a theme that shows nothing but highlights, a line with one highlight comes in up to three
runs: the text before it, the highlighted text and the text after it (`Run.parts_highlighted`). So
there is a source for every way to cut a line in two. -/

namespace YamlListing

/-! ## Sources -/

namespace Source

variable {s : Source} {n a b i : Nat}

theorem lines_addOverlay (s : Source) (category : Category) (span : Span) :
    (s.addOverlay category span).lines = s.lines := by
  rw [addOverlay]
  split <;> rfl

theorem segments_addOverlay (s : Source) (category : Category) (span : Span) :
    (s.addOverlay category span).segments = s.segments := by
  rw [addOverlay]
  split <;> rfl

theorem endsWithNewline_addOverlay (s : Source) (category : Category) (span : Span) :
    (s.addOverlay category span).endsWithNewline = s.endsWithNewline := by
  rw [addOverlay]
  split <;> rfl

/-- An overlay over columns of a line that exists is laid as it is. -/
theorem addOverlay_columns (category : Category) (hn : 1 ≤ n) (hcount : n ≤ s.lineCount)
    (ha : 1 ≤ a) (hab : a < b) : s.addOverlay category ⟨⟨n, a⟩, ⟨n, b⟩⟩ =
      { s with overlays := s.overlays ++ [⟨category, ⟨⟨n, a⟩, ⟨n, b⟩⟩⟩] } := by
  have hclip : Span.clipTo ⟨⟨n, a⟩, ⟨n, b⟩⟩ s.bounds = some ⟨⟨n, a⟩, ⟨n, b⟩⟩ := by
    rw [bounds_eq]
    refine Span.clipTo_eq_self ?_ (Or.inl (Nat.lt_succ_of_le hcount)) (Or.inr ⟨rfl, hab⟩)
    simp only [Position.le_def, Position.lineStart]
    omega
  rw [addOverlay, hclip]

theorem clipToTextLine_columns (ha : 1 ≤ a) (hab : a < b) :
    Span.clipToTextLine ⟨⟨n, a⟩, ⟨n, b⟩⟩ n = some ⟨⟨n, a⟩, ⟨n, b⟩⟩ := by
  have hvalid : Span.IsValid ⟨⟨n, a⟩, ⟨n, b⟩⟩ :=
    ⟨Or.inr ⟨rfl, Nat.le_of_lt hab⟩, ha, Nat.le_trans ha (Nat.le_of_lt hab)⟩
  have hlast : Span.lastLine ⟨⟨n, a⟩, ⟨n, b⟩⟩ = n :=
    Span.lastLine_of_one_lt (Nat.lt_of_le_of_lt ha hab)
  rw [Span.clipToTextLine_of_touched hvalid (Nat.le_refl n) (Nat.le_of_eq hlast.symm),
    Span.clipStart, Span.clipStop, if_pos rfl, if_neg (Nat.lt_irrefl n)]

/-- The columns of a text that stands after another one on a line. -/
def spanAfter (i : Nat) (x q : Text) : Span :=
  ⟨⟨i + 1, x.length + 1⟩, ⟨i + 1, x.length + q.length + 1⟩⟩

/-- Lines with a highlight over a text that stands after another one on one of them. -/
def highlighted (lines : List Text) (i : Nat) (x q : Text) : Source :=
  (ofLines lines none).addOverlay .highlight (spanAfter i x q)

variable {lines : List Text} {x q r : Text}

theorem spanAfter_isValid (i : Nat) (x q : Text) : (spanAfter i x q).IsValid :=
  ⟨Or.inr ⟨rfl, by simp only [spanAfter]; omega⟩, Nat.le_add_left 1 _, Nat.le_add_left 1 _⟩

theorem highlighted_isReachable (lines : List Text) (i : Nat) (x q : Text) :
    (highlighted lines i x q).IsReachable :=
  .change (.ofLines lines none) (.addOverlay .highlight _) (spanAfter_isValid i x q)

theorem lines_highlighted (lines : List Text) (i : Nat) (x q : Text) :
    (highlighted lines i x q).lines = lines := lines_addOverlay _ _ _

theorem endsWithNewline_highlighted (lines : List Text) (i : Nat) (x q : Text) :
    (highlighted lines i x q).endsWithNewline = false := endsWithNewline_addOverlay _ _ _

theorem segmentsAt_highlighted (lines : List Text) (x q : Text) :
    (highlighted lines i x q).segmentsAt (i + 1) = [] := by
  rw [segmentsAt, highlighted, segments_addOverlay, ofLines, atLine, if_neg (Nat.succ_ne_zero i),
    List.getElem?_map]
  cases lines[i + 1 - 1]? <;> rfl

theorem overlaysOn_highlighted (hline : lines[i]? = some (x ++ q ++ r)) (hq : q ≠ []) :
    (highlighted lines i x q).overlaysOn (i + 1) = [⟨.highlight, spanAfter i x q⟩] := by
  obtain ⟨hi, -⟩ := List.getElem?_eq_some_iff.1 hline
  have hpos := List.length_pos_iff.2 hq
  have hlaid : highlighted lines i x q =
      { ofLines lines none with overlays := [⟨.highlight, spanAfter i x q⟩] } :=
    addOverlay_columns (s := .ofLines lines none) .highlight (Nat.le_add_left 1 i) hi
      (Nat.le_add_left 1 _) (by omega)
  have hclip : (spanAfter i x q).clipToTextLine (i + 1) = some (spanAfter i x q) :=
    clipToTextLine_columns (Nat.le_add_left 1 _) (by omega)
  rw [hlaid, overlaysOn, List.filterMap_cons_some (by rw [hclip, Option.map_some])]
  rfl

end Source

/-! ## Cells -/

namespace Run

variable {handle upper : Handle} {start stop n : Nat}

theorem setCells_append (handle : Handle) (start stop n : Nat) (cells cells' : List Handle) :
    setCells handle start stop n (cells ++ cells') = setCells handle start stop n cells ++
      setCells handle start stop (n + cells.length) cells' := by
  induction cells generalizing n with
  | nil => rfl
  | cons cell cells ih =>
    rw [List.cons_append, setCells, setCells, ih, List.length_cons, List.cons_append, Nat.add_assoc,
      Nat.add_comm 1]

theorem setCells_inside {cells : List Handle} (hstart : start ≤ n)
    (hstop : n + cells.length ≤ stop) :
    setCells handle start stop n cells = List.replicate cells.length handle := by
  induction cells generalizing n with
  | nil => rfl
  | cons cell cells ih =>
    rw [List.length_cons] at hstop ⊢
    rw [setCells, if_pos (by simp [inColumns]; omega), ih (by omega) (by omega)]
    rfl

theorem setCells_outside {cells : List Handle} (h : n + cells.length ≤ start ∨ stop ≤ n) :
    setCells handle start stop n cells = cells := by
  induction cells generalizing n with
  | nil => rfl
  | cons cell cells ih =>
    rw [List.length_cons] at h
    rw [setCells, if_neg (by simp [inColumns]; omega), ih (by omega)]

theorem setCells_replicate (handle upper : Handle) (x q r : Nat) :
    setCells upper (x + 1) (x + q + 1) 1 (List.replicate (x + (q + r)) handle) =
      List.replicate x handle ++ (List.replicate q upper ++ List.replicate r handle) := by
  rw [List.replicate_add, List.replicate_add, setCells_append, setCells_append,
    setCells_outside (by rw [List.length_replicate]; omega),
    setCells_inside (by rw [List.length_replicate]; omega)
      (by rw [List.length_replicate, List.length_replicate]; omega),
    setCells_outside (by simp only [List.length_replicate]; omega), List.length_replicate]

/-- Over cells that show nothing, a handle that shows something is the answer of every composer. -/
theorem blendCells_of_isEmpty (theme start stop n : Nat) (c : Composer)
    (hupper : upper.style.isEmpty = false) {cells : List Handle}
    (hcells : ∀ cell ∈ cells, cell.style.isEmpty = true) :
    blendCells theme upper start stop n c cells = (setCells upper start stop n cells, c) := by
  induction cells generalizing n with
  | nil => rfl
  | cons cell cells ih =>
    obtain ⟨hcell, hcells⟩ := List.forall_mem_cons.1 hcells
    have hlayer : c.layer theme cell upper .blend = (upper, c) := by
      rw [Composer.layer, if_neg (by simp [hupper]), if_pos hcell]
    simp only [blendCells, setCells, hlayer]
    split <;> simp only [ih _ hcells]

end Run

/-! ## Highlights that are seen -/

namespace Styles

/-- A theme that shows nothing but highlights. -/
def highlights : Styles := ⟨0, .plain, [(.highlight, Style.plain.bold)]⟩

theorem handle_text_highlights : highlights.handle .text = ⟨.entry 0 .text, .plain⟩ := by
  rw [handle, dif_neg (by decide)]
  rfl

theorem handle_highlight_highlights : highlights.handle .highlight =
    ⟨.entry 0 .highlight, Style.overrideStyle .plain Style.plain.bold⟩ := by
  rw [handle_of_own rfl rfl, Category.parent, handle_text_highlights]
  rfl

theorem highlights_hasNoTransform : highlights.HasNoTransform :=
  hasNoTransform_of_forall rfl (List.forall_mem_singleton.2 rfl)

end Styles

namespace Run

open Styles (highlights handle_text_highlights handle_highlight_highlights)
open Source (highlighted)

variable {lines : List Text} {x q r : Text} {i : Nat}

/-- The texts of the runs of a line. -/
def parts (styles : Styles) (source : Source) (n : Nat) : List Text :=
  (ofLine styles source n .empty).1.map (·.text)

/-- The cells of a highlighted line. -/
theorem lineCells_highlighted (hline : lines[i]? = some (x ++ q ++ r)) (hq : q ≠ []) :
    (lineCells highlights (highlighted lines i x q) (i + 1) .empty).1 =
      List.replicate x.length (highlights.handle .text) ++
        (List.replicate q.length (highlights.handle .highlight) ++
          List.replicate r.length (highlights.handle .text)) := by
  have htext : ((highlighted lines i x q).line? (i + 1)).getD [] = x ++ q ++ r := by
    rw [Source.line?_succ, Source.lines_highlighted, hline, Option.getD_some]
  have hlength : (x ++ q ++ r).length = x.length + (q.length + r.length) := by
    simp only [List.length_append, Nat.add_assoc]
  have hbase : baseCells highlights [] (x.length + (q.length + r.length)) =
      List.replicate (x.length + (q.length + r.length)) (highlights.handle .text) := rfl
  have hcolumns (length : Nat) : overlayColumns (Source.spanAfter i x q) (i + 1) length =
      (x.length + 1, x.length + q.length + 1) := by
    simp [overlayColumns, Source.spanAfter]
  have hempty : ∀ cell ∈ List.replicate (x.length + (q.length + r.length))
      (highlights.handle .text), cell.style.isEmpty = true := by
    intro cell hcell
    rw [List.eq_of_mem_replicate hcell, handle_text_highlights]
    rfl
  have hupper : (highlights.handle .highlight).style.isEmpty = false := by
    rw [handle_highlight_highlights]
    rfl
  rw [lineCells, htext, hlength, Source.segmentsAt_highlighted, hbase,
    Source.overlaysOn_highlighted hline hq, overlayCells_cons]
  simp only [hcolumns, blendCells_of_isEmpty _ _ _ _ _ hupper hempty, overlayCells,
    setCells_replicate]

theorem zip_replicate (t : Text) (handle : Handle) :
    t.zip (List.replicate t.length handle) = Run.cells ⟨handle, t⟩ := by
  induction t with
  | nil => rfl
  | cons c t ih =>
    rw [List.length_cons, List.replicate_succ, List.zip_cons_cons, ih]
    rfl

/-- The runs of a highlighted line are the text before the highlight, unless it begins the line, the
highlighted text and the text after it. -/
theorem parts_highlighted (hline : lines[i]? = some (x ++ q ++ r)) (hq : q ≠ []) (hr : r ≠ []) :
    parts highlights (highlighted lines i x q) (i + 1) = if x = [] then [q, r] else [x, q, r] := by
  have htext : ((highlighted lines i x q).line? (i + 1)).getD [] = x ++ (q ++ r) := by
    rw [Source.line?_succ, Source.lines_highlighted, hline, Option.getD_some, List.append_assoc]
  have hcells : (x ++ (q ++ r)).zip
      (lineCells highlights (highlighted lines i x q) (i + 1) .empty).1 =
      Run.cells ⟨highlights.handle .text, x⟩ ++ (Run.cells ⟨highlights.handle .highlight, q⟩ ++
        Run.cells ⟨highlights.handle .text, r⟩) := by
    rw [lineCells_highlighted hline hq, List.zip_append List.length_replicate.symm,
      List.zip_append List.length_replicate.symm, zip_replicate, zip_replicate, zip_replicate]
  have hin : (highlights.handle .highlight).same (highlights.handle .text) = false := by
    rw [handle_text_highlights, handle_highlight_highlights]
    rfl
  have hout : (highlights.handle .text).same (highlights.handle .highlight) = false := by
    rw [handle_text_highlights, handle_highlight_highlights]
    rfl
  rw [parts, ofLine_eq, Source.segmentsAt_highlighted, htext, hcells]
  split
  · next hx =>
    subst hx
    have hruns := runsFrom_flatMap_cells [⟨highlights.handle .highlight, q⟩,
      ⟨highlights.handle .text, r⟩] (by simp [hq, hr]) (by simp [hout]) 1
    rw [List.flatMap_cons, List.flatMap_singleton] at hruns
    exact congrArg (List.map (·.text)) hruns
  · next hx =>
    have hruns := runsFrom_flatMap_cells [⟨highlights.handle .text, x⟩,
      ⟨highlights.handle .highlight, q⟩, ⟨highlights.handle .text, r⟩] (by simp [hx, hq, hr])
      (by simp [hin, hout]) 1
    rw [List.flatMap_cons, List.flatMap_cons, List.flatMap_singleton] at hruns
    exact congrArg (List.map (·.text)) hruns

end Run

end YamlListing

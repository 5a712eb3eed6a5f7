import YamlListing.Proofs.Listing.Cells
import YamlListing.Proofs.Source.Attach
import YamlListing.Proofs.Span.Order

set_option autoImplicit false

/-! # Segments that overrun their line

The part of a segment on a line begins where the segment says and, if the segment goes on on the
next line, stops where the line does. Nothing compares the two. So a segment that begins past the
end of its line and goes on leaves a part behind that stops before it begins. An empty segment at
column 0 does so too, since its part is made to begin at column 1 (`partOn_inOrder_iff`). Such a
part is not read alike everywhere: it has a width, and a span, but there is nothing for a listing to
color (`ReadsAlike`). Main statement: the parts on a line are in order exactly if none of the
attached segments is of these two kinds there, and a part is read alike exactly if it is in order
(`attach_inOrder_iff`). -/

namespace YamlListing

/-! ## How a part is read -/

theorem Run.getElem?_setCells (handle : Handle) (start stop n : Nat) (cells : List Handle)
    (i : Nat) : (setCells handle start stop n cells)[i]? =
      cells[i]?.map fun cell => if inColumns start stop (n + i) then handle else cell := by
  induction cells generalizing n i with
  | nil => rfl
  | cons cell cells ih =>
    cases i with
    | zero => rfl
    | succ i =>
      rw [setCells, List.getElem?_cons_succ, List.getElem?_cons_succ, ih, Nat.add_right_comm]
      rfl

namespace LineSegment

/-- Whether a part of line `n` is the same to all that read it. -/
structure ReadsAlike (part : LineSegment) (n : Nat) : Prop where
  /-- It has no width exactly if a listing finds no column in it to color. -/
  isEmpty_iff : part.isEmpty = true ↔ ∀ column, Run.inColumns part.start part.stop column = false
  /-- Its span is empty exactly if it has no width. -/
  isEmpty_span : (part.span n).isEmpty = part.isEmpty
  /-- A listing colors those characters of the line whose positions its span contains. -/
  baseCells : ∀ (styles : Styles) (length i : Nat), i < length →
    (Run.baseCells styles [part] length)[i]? =
      some (styles.handle (if (part.span n).contains ⟨n, i + 1⟩ then part.category else .text))

variable {part : LineSegment} {n : Nat}

theorem span_of_le (h : part.start ≤ part.stop) (n : Nat) :
    part.span n = ⟨⟨n, part.start⟩, ⟨n, part.stop⟩⟩ := by
  rw [span, Span.onLine, Nat.min_eq_left h, Nat.max_eq_right h]

theorem contains_span_of_le (h : part.start ≤ part.stop) (n column : Nat) :
    (part.span n).contains ⟨n, column⟩ = Run.inColumns part.start part.stop column := by
  rw [Bool.eq_iff_iff, span_of_le h, Span.contains_iff, Position.le_def, Position.lt_def,
    Run.inColumns, Bool.and_eq_true, decide_eq_true_eq, decide_eq_true_eq]
  simp only [Nat.lt_irrefl, false_or, true_and]

/-- The cells of a line with one segment have its handle in the columns from its start to its stop,
if there are any. -/
theorem getElem?_baseCells (part : LineSegment) (styles : Styles) {length i : Nat}
    (hi : i < length) : (Run.baseCells styles [part] length)[i]? = some (styles.handle
      (if Run.inColumns part.start part.stop (i + 1) then part.category else .text)) := by
  have htext : (List.replicate length (styles.handle .text))[i]? = some (styles.handle .text) :=
    List.getElem?_replicate_of_lt hi
  rw [Run.baseCells, List.foldl_cons, List.foldl_nil]
  split
  · next hempty =>
    have hnone : Run.inColumns part.start part.stop (i + 1) = false :=
      Run.covers_eq_false_of_isEmpty hempty (i + 1)
    rw [htext, hnone, if_neg Bool.false_ne_true]
  · rw [Run.getElem?_setCells, htext, Option.map_some, Nat.add_comm 1]
    split <;> rfl

/-- All read the same in a part exactly if it does not stop before it begins. -/
theorem readsAlike_iff : part.ReadsAlike n ↔ part.start ≤ part.stop := by
  constructor
  · intro h
    by_contra hlt
    have hnone : part.isEmpty = true := h.isEmpty_iff.2 fun column => by
      rw [Run.inColumns, Bool.and_eq_false_iff, decide_eq_false_iff_not, decide_eq_false_iff_not]
      omega
    rw [isEmpty, beq_iff_eq] at hnone
    exact hlt (Nat.le_of_eq hnone)
  · intro h
    refine ⟨⟨fun hempty column => Run.covers_eq_false_of_isEmpty hempty column, ?_⟩, ?_, ?_⟩
    · intro hnone
      have hstart := hnone part.start
      rw [Run.inColumns, decide_eq_true (Nat.le_refl _), Bool.true_and, decide_eq_false_iff_not]
        at hstart
      rw [isEmpty, beq_iff_eq]
      omega
    · rw [span_of_le h, Span.isEmpty, isEmpty, Bool.eq_iff_iff, beq_iff_eq, beq_iff_eq,
        Position.mk.injEq, and_iff_right rfl]
    · intro styles length i hi
      rw [contains_span_of_le h]
      exact getElem?_baseCells part styles hi

end LineSegment

namespace Source

open Yaml (Segment)

/-! ## The part of a segment on a line -/

/-- Whether a segment begins past the end of a line, given its number and width, and goes on on a
later one. -/
structure Overruns (segment : Segment) (n width : Nat) : Prop where
  line_eq : segment.span.start.line = n
  goesOn : n < segment.span.stop.line
  pastEnd : width + 1 < segment.span.start.column

section partOn

variable {segment : Segment} {span : Span} {n width : Nat} {part : LineSegment}

theorem column_max_lineStart (hfirst : span.firstLine ≤ n) :
    (max span.start (.lineStart n)).column = max 1 (span.clipStart n).column := by
  rw [Span.firstLine] at hfirst
  rw [Position.max_def, Span.clipStart]
  split
  all_goals
    next hle =>
    rw [Position.le_def, Position.lineStart] at hle
    split <;> simp only [Position.lineStart] at hle ⊢ <;> omega

theorem stop_min_lineStart (span : Span) (n width : Nat) :
    (if n < (min span.stop (.lineStart (n + 1))).line then width + 1
      else (min span.stop (.lineStart (n + 1))).column) = partStop span n width := by
  rw [partStop, Position.min_def]
  split
  · split <;> rfl
  · next hle =>
    -- The span goes on on the next line, so both sides stop where the line does.
    have hgoes : n < span.stop.line := by
      rw [Position.le_def, Position.lineStart] at hle
      simp only at hle
      omega
    have hnext : n < (Position.lineStart (n + 1)).line := Nat.lt_succ_self n
    rw [if_pos hnext, if_pos hgoes]

/-- The part of a segment on a line that it touches, whatever columns the segment names. -/
theorem partOn_eq (hfirst : segment.span.firstLine ≤ n) (hlast : n ≤ segment.span.lastLine) :
    partOn segment n width =
      if max 1 (segment.span.clipStart n).column = partStop segment.span n width ∧
          !segment.span.isEmpty then none
      else some ⟨max 1 (segment.span.clipStart n).column, partStop segment.span n width,
        segment.category⟩ := by
  have hclip := Span.clipToTextLine_eq_some_iff.2 ⟨hfirst, hlast, rfl⟩
  simp only [partOn, hclip, column_max_lineStart hfirst, stop_min_lineStart]

theorem bounds_of_partOn (hpart : partOn segment n width = some part) :
    segment.span.firstLine ≤ n ∧ n ≤ segment.span.lastLine ∧
      part.start = max 1 (segment.span.clipStart n).column ∧
      part.stop = partStop segment.span n width := by
  by_cases hline : n < segment.span.firstLine ∨ segment.span.lastLine < n
  · rw [partOn, Span.clipToTextLine_eq_none hline] at hpart
    cases hpart
  · obtain ⟨hfirst, hlast⟩ : segment.span.firstLine ≤ n ∧ n ≤ segment.span.lastLine := by omega
    rw [partOn_eq hfirst hlast] at hpart
    split at hpart
    · cases hpart
    · obtain rfl := Option.some.inj hpart
      exact ⟨hfirst, hlast, rfl, rfl⟩

/-- The part of a segment stops before it begins exactly if the segment overruns the line, or is
empty and sits at column 0 of it. -/
theorem partOn_inOrder_iff (hle : segment.span.start ≤ segment.span.stop)
    (hpart : partOn segment n width = some part) :
    part.start ≤ part.stop ↔ ¬ (Overruns segment n width ∨ segment.span = .empty ⟨n, 0⟩) := by
  obtain ⟨hfirst, hlast, hstart, hstop⟩ := bounds_of_partOn hpart
  have hoverruns : Overruns segment n width ↔ segment.span.start.line = n ∧
      n < segment.span.stop.line ∧ width + 1 < segment.span.start.column :=
    ⟨fun h => ⟨h.1, h.2, h.3⟩, fun h => ⟨h.1, h.2.1, h.2.2⟩⟩
  have hempty : segment.span = .empty ⟨n, 0⟩ ↔
      (segment.span.start.line = n ∧ segment.span.start.column = 0) ∧
        segment.span.stop.line = n ∧ segment.span.stop.column = 0 := by
    obtain ⟨⟨_, _⟩, ⟨_, _⟩⟩ := segment.span
    rw [Span.empty, Span.mk.injEq, Position.mk.injEq, Position.mk.injEq]
  rw [Position.le_def] at hle
  rw [Span.firstLine] at hfirst
  rw [Span.lastLine] at hlast
  rw [hoverruns, hempty, hstart, hstop, partStop]
  by_cases hn : n = segment.span.start.line
  · have hcolumn : (segment.span.clipStart n).column = segment.span.start.column := by
      rw [hn, clipStart_column_of_first]
    rw [hcolumn]
    split <;> omega
  · -- A line that is not the segment's first one is only touched if something on it is.
    rw [clipStart_column_of_later hn]
    split at hlast <;> split <;> omega

/-- What overruns a line, and an empty segment at column 0 of it, leaves a part there. -/
theorem exists_part_of_outOfOrder
    (h : Overruns segment n width ∨ segment.span = .empty ⟨n, 0⟩) :
    ∃ part, partOn segment n width = some part := by
  obtain h | h := h
  · have hgoesOn := h.goesOn
    have hpast := h.pastEnd
    have hfirst : segment.span.firstLine ≤ n := Nat.le_of_eq h.line_eq
    have hlast : n ≤ segment.span.lastLine := by
      rw [Span.lastLine]
      split <;> omega
    have hne : ¬ (max 1 (segment.span.clipStart n).column = partStop segment.span n width ∧
        (!segment.span.isEmpty) = true) := by
      rw [← h.line_eq, clipStart_column_of_first, partStop, if_pos (h.line_eq ▸ hgoesOn)]
      omega
    exact ⟨_, by rw [partOn_eq hfirst hlast, if_neg hne]⟩
  · have hfirst : segment.span.firstLine ≤ n := Nat.le_of_eq (by rw [h, Span.firstLine, Span.empty])
    have hlast : n ≤ segment.span.lastLine := by simp [h, Span.lastLine, Span.empty]
    have hne : ¬ (max 1 (segment.span.clipStart n).column = partStop segment.span n width ∧
        (!segment.span.isEmpty) = true) := by
      simp [h, Span.isEmpty, Span.empty]
    exact ⟨_, by rw [partOn_eq hfirst hlast, if_neg hne]⟩

end partOn

/-! ## Attached segments -/

section attach

variable {s t : Source} {segments : List Segment} {n : Nat}

theorem one_le_start_of_partOn {segment : Segment} {width : Nat} {part : LineSegment}
    (hpart : partOn segment n width = some part) : 1 ≤ part.start := by
  obtain ⟨-, -, hstart, -⟩ := bounds_of_partOn hpart
  rw [hstart]
  exact Nat.le_max_left _ _

theorem mem_segmentsAt_of_attach (h : s.attach segments = .ok t) {part : LineSegment} :
    part ∈ t.segmentsAt n ↔ ∃ text, s.line? n = some text ∧
      ∃ segment ∈ segments, partOn segment n text.length = some part := by
  obtain ⟨-, rfl⟩ := attach_eq_ok_iff.1 h
  cases hline : s.line? n with
  | none => simp [segmentsAt_partTable_of_none (s := s) hline]
  | some text => simp [segmentsAt_partTable (s := s) hline, mem_partsOn]

/-- The parts on a line are in order exactly if no segment overruns the line, or is empty and sits
at column 0 of it. They begin at column 1 or later, and are read alike exactly if they are in
order. -/
theorem attach_inOrder_iff (hle : ∀ segment ∈ segments, segment.span.start ≤ segment.span.stop)
    (h : s.attach segments = .ok t) (n : Nat) :
    ((∀ part ∈ t.segmentsAt n, 1 ≤ part.start ∧ part.start ≤ part.stop) ↔
      ∀ text, s.line? n = some text → ∀ segment ∈ segments,
        ¬ (Overruns segment n text.length ∨ segment.span = .empty ⟨n, 0⟩)) ∧
    ∀ part ∈ t.segmentsAt n, 1 ≤ part.start ∧ (part.ReadsAlike n ↔ part.start ≤ part.stop) := by
  have hone : ∀ part ∈ t.segmentsAt n, 1 ≤ part.start := by
    intro part hpart
    obtain ⟨text, -, segment, -, hpart⟩ := (mem_segmentsAt_of_attach h).1 hpart
    exact one_le_start_of_partOn hpart
  refine ⟨⟨?_, ?_⟩, fun part hpart => ⟨hone part hpart, LineSegment.readsAlike_iff⟩⟩
  · intro hinOrder text hline segment hsegment hout
    obtain ⟨part, hpart⟩ := exists_part_of_outOfOrder hout
    have hstored := (mem_segmentsAt_of_attach h).2 ⟨text, hline, segment, hsegment, hpart⟩
    exact (partOn_inOrder_iff (hle segment hsegment) hpart).1 (hinOrder part hstored).2 hout
  · intro hnone part hstored
    obtain ⟨text, hline, segment, hsegment, hpart⟩ := (mem_segmentsAt_of_attach h).1 hstored
    exact ⟨hone part hstored, (partOn_inOrder_iff (hle segment hsegment) hpart).2
      (hnone text hline segment hsegment)⟩

/-- The first line has two characters, and the segment begins in column 5 of it. -/
theorem attach_pastEnd :
    (ofLines ["ab".toList, "cde".toList] none).attach [⟨⟨⟨1, 5⟩, ⟨2, 3⟩⟩, .comment, []⟩] =
      .ok { ofLines ["ab".toList, "cde".toList] none with
        segments := [[⟨5, 3, .comment⟩], [⟨1, 3, .comment⟩]]
        classified := true } := by
  let given : List Segment := [⟨⟨⟨1, 5⟩, ⟨2, 3⟩⟩, .comment, []⟩]
  have hfirst : partsOn given 1 "ab".toList = [⟨5, 3, .comment⟩] :=
    partsOn_of_perm (by decide) (by decide)
  have hsecond : partsOn given 2 "cde".toList = [⟨1, 3, .comment⟩] :=
    partsOn_of_perm (by decide) (by decide)
  have htable : (ofLines ["ab".toList, "cde".toList] none).partTable given =
      [[⟨5, 3, .comment⟩], [⟨1, 3, .comment⟩]] := by
    change [partsOn given 1 "ab".toList, partsOn given 2 "cde".toList] = _
    rw [hfirst, hsecond]
  rw [attach_eq_ok_iff, htable]
  exact ⟨by decide, rfl⟩

/-- The part of a segment on the line past whose end it begins is out of order and not read alike,
and that on the next line is in order. -/
theorem attach_inOrder_iff_pastEnd :
    let given : List Segment := [⟨⟨⟨1, 5⟩, ⟨2, 3⟩⟩, .comment, []⟩]
    ∃ t, (ofLines ["ab".toList, "cde".toList] none).attach given = .ok t ∧
      (¬ (∀ part ∈ t.segmentsAt 1, 1 ≤ part.start ∧ part.start ≤ part.stop) ∧
        ¬ LineSegment.ReadsAlike ⟨5, 3, .comment⟩ 1) ∧
      (∀ part ∈ t.segmentsAt 2, 1 ≤ part.start ∧ part.start ≤ part.stop) ∧
        LineSegment.ReadsAlike ⟨1, 3, .comment⟩ 2 := by
  intro given
  have hle : ∀ segment ∈ given, segment.span.start ≤ segment.span.stop := by decide
  obtain ⟨hfirst, hreadFirst⟩ := attach_inOrder_iff hle attach_pastEnd 1
  obtain ⟨hsecond, hreadSecond⟩ := attach_inOrder_iff hle attach_pastEnd 2
  refine ⟨_, attach_pastEnd, ⟨?_, ?_⟩, ?_, ?_⟩
  · rw [hfirst]
    intro hnone
    exact hnone "ab".toList rfl _ (List.mem_singleton_self _) (Or.inl ⟨rfl, by decide, by decide⟩)
  · rw [(hreadFirst ⟨5, 3, .comment⟩ (by decide)).2]
    decide
  · rw [hsecond]
    intro text _ segment hsegment hout
    obtain rfl := List.mem_singleton.1 hsegment
    obtain hover | hempty := hout
    · exact absurd hover.line_eq (by decide)
    · exact absurd hempty (by decide)
  · rw [(hreadSecond ⟨1, 3, .comment⟩ (by decide)).2]
    decide

/-- The parts of attached segments are not always in order. -/
theorem not_attach_inOrder : ¬ ∀ (s t : Source) (segments : List Segment),
    (∀ segment ∈ segments, segment.span.IsValid) → s.attach segments = .ok t →
      ∀ n, ∀ part ∈ t.segmentsAt n, 1 ≤ part.start ∧ part.start ≤ part.stop := by
  intro hall
  have hvalid : ∀ segment ∈ [(⟨⟨⟨1, 5⟩, ⟨2, 3⟩⟩, .comment, []⟩ : Segment)],
      segment.span.IsValid := by
    simp only [List.forall_mem_cons]
    exact ⟨⟨by decide, by decide, by decide⟩, List.forall_mem_nil _⟩
  have hinOrder := hall _ _ _ hvalid attach_pastEnd 1 ⟨5, 3, .comment⟩ (by decide)
  exact absurd hinOrder.2 (by decide)

end attach

end Source

end YamlListing

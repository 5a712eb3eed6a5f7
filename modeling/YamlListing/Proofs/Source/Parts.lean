import Mathlib.Data.List.Pairwise
import YamlListing.Proofs.Span.Clip
import YamlListing.Source.Basic

set_option autoImplicit false

/-! # The parts of segments on lines

Attaching segments cuts them into parts by lines. A column of a line lies in the part of a segment
if its position lies in the segment's span (`exists_part_of_contains`), and segments that lie one
after the other have parts that do (`parts_pairwise`), in which case they can be attached
(`attach_eq_ok`). -/

namespace YamlListing

/-- Whether a segment covers a column. -/
def LineSegment.covers (s : LineSegment) (column : Nat) : Bool :=
  s.start ≤ column && column < s.stop

namespace Source

open Yaml (Segment)

/-! ## The part of a segment on a line -/

section partOn

variable {segment u v : Segment} {n width column : Nat} {part a b : LineSegment}

/-- The column where a span stops on a line of the given width. -/
def partStop (span : Span) (n width : Nat) : Nat :=
  if n < span.stop.line then width + 1 else span.stop.column

/-- The part of a valid segment on a line that it touches. -/
theorem partOn_of_touched (h : segment.span.IsValid) (hfirst : segment.span.firstLine ≤ n)
    (hlast : n ≤ segment.span.lastLine) : partOn segment n width =
      if (segment.span.clipStart n).column = partStop segment.span n width ∧
          !segment.span.isEmpty then none
      else some ⟨(segment.span.clipStart n).column, partStop segment.span n width,
        segment.category⟩ := by
  have hstopLine : n ≤ segment.span.stop.line := Nat.le_trans hlast segment.span.lastLine_le
  have hstop : (if n < (segment.span.clipStop n).line then width + 1
      else (segment.span.clipStop n).column) = partStop segment.span n width := by
    obtain ⟨-, hless⟩ := segment.span.clipStop_line_le n hstopLine
    simp only [hless, partStop]
    split
    · rfl
    · next hn => rw [Span.clipStop, if_neg hn]
  simp only [partOn, Span.clipToTextLine_of_touched h hfirst hlast, hstop]

/-- What a part of a segment is, given that it has one. -/
theorem partOn_eq_some (h : segment.span.IsValid) (hpart : partOn segment n width = some part) :
    segment.span.firstLine ≤ n ∧ n ≤ segment.span.lastLine ∧
      part.start = (segment.span.clipStart n).column ∧
      part.stop = partStop segment.span n width ∧ part.category = segment.category ∧
      (part.isEmpty = true → segment.span.isEmpty = true) := by
  by_cases hline : n < segment.span.firstLine ∨ segment.span.lastLine < n
  · rw [partOn, Span.clipToTextLine_eq_none hline] at hpart
    cases hpart
  · have hfirst : segment.span.firstLine ≤ n := by omega
    have hlast : n ≤ segment.span.lastLine := by omega
    rw [partOn_of_touched h hfirst hlast] at hpart
    split at hpart
    · cases hpart
    · next hsome =>
        obtain rfl := Option.some.inj hpart
        refine ⟨hfirst, hlast, rfl, rfl, rfl, ?_⟩
        intro hempty
        rw [LineSegment.isEmpty, beq_iff_eq] at hempty
        by_cases hspan : segment.span.isEmpty = true
        · exact hspan
        · exact absurd ⟨hempty, by simp [hspan]⟩ hsome

theorem clipStart_column_of_first (span : Span) : (span.clipStart span.start.line).column =
    span.start.column := by
  rw [Span.clipStart, if_pos rfl]

theorem clipStart_column_of_later {span : Span} (h : n ≠ span.start.line) :
    (span.clipStart n).column = 1 := by
  rw [Span.clipStart, if_neg h, Position.lineStart]

/-- A segment whose span contains the position of a column of a line has a part that covers it. -/
theorem exists_part_of_contains (h : segment.span.IsValid) (hcolumn : 1 ≤ column)
    (hwidth : column ≤ width) (hcontains : segment.span.contains ⟨n, column⟩ = true) :
    ∃ part, partOn segment n width = some part ∧ part.covers column = true := by
  obtain ⟨hstart, hstop⟩ := Span.contains_iff.1 hcontains
  rw [Position.le_def] at hstart
  rw [Position.lt_def] at hstop
  simp only at hstart hstop
  have hfirst : segment.span.firstLine ≤ n := by
    rw [Span.firstLine]
    omega
  have hlast : n ≤ segment.span.lastLine := by
    rw [Span.lastLine]
    split <;> omega
  have hpartStart : (segment.span.clipStart n).column ≤ column := by
    by_cases hn : n = segment.span.start.line
    · rw [hn, clipStart_column_of_first]
      omega
    · rw [clipStart_column_of_later hn]
      exact hcolumn
  have hpartStop : column < partStop segment.span n width := by
    rw [partStop]
    split <;> omega
  have hne : (segment.span.clipStart n).column ≠ partStop segment.span n width := by omega
  refine ⟨_, by rw [partOn_of_touched h hfirst hlast, if_neg (fun he => hne he.1)], ?_⟩
  rw [LineSegment.covers, Bool.and_eq_true, decide_eq_true_eq, decide_eq_true_eq]
  exact ⟨hpartStart, hpartStop⟩

/-- Segments that lie one after the other have parts that do. -/
theorem part_stop_le_start (hu : u.span.IsValid) (hv : v.span.IsValid)
    (h : u.span.stop ≤ v.span.start) (ha : partOn u n width = some a)
    (hb : partOn v n width = some b) : a.stop ≤ b.start := by
  obtain ⟨-, hlast, -, hstop, -, -⟩ := partOn_eq_some hu ha
  obtain ⟨hfirst, -, hstart, -, -, -⟩ := partOn_eq_some hv hb
  have hle := u.span.lastLine_le
  rw [Span.firstLine] at hfirst
  rw [Position.le_def] at h
  -- The first has to reach the line and the second may not begin later, so both ends are on it.
  have hline : n = v.span.start.line := by omega
  rw [hstop, hstart, partStop, if_neg (by omega), hline, clipStart_column_of_first]
  omega

/-- The part of a segment that does not begin past the end of its line comes in order. -/
theorem part_start_le_stop (h : segment.span.IsValid)
    (hfits : n = segment.span.start.line → segment.span.start.column ≤ width + 1)
    (hpart : partOn segment n width = some part) : part.start ≤ part.stop := by
  obtain ⟨-, hlast, hstart, hstop, -, -⟩ := partOn_eq_some h hpart
  have hle := segment.span.lastLine_le
  have horder := h.start_le_stop
  have hone := h.one_le_stop
  rw [Position.le_def] at horder
  rw [hstart, hstop, partStop]
  by_cases hn : n = segment.span.start.line
  · have hcolumn := hfits hn
    rw [hn, clipStart_column_of_first]
    split <;> omega
  · rw [clipStart_column_of_later hn]
    split <;> omega

end partOn

/-! ## Parts in order -/

section order

variable {parts : List LineSegment}

theorem sortSegments_perm (parts : List LineSegment) : (sortSegments parts).Perm parts :=
  List.mergeSort_perm parts _

/-- Parts are sorted by their start and then by their stop. -/
theorem sortSegments_sorted (parts : List LineSegment) : (sortSegments parts).Pairwise fun a b =>
    a.start < b.start ∨ a.start = b.start ∧ a.stop ≤ b.stop := by
  have hsorted : (sortSegments parts).Pairwise fun a b =>
      (a.start < b.start || (a.start == b.start && a.stop ≤ b.stop)) = true := by
    refine List.pairwise_mergeSort ?_ ?_ parts
    · intro a b c
      simp only [Bool.or_eq_true, Bool.and_eq_true, decide_eq_true_eq, beq_iff_eq]
      omega
    · intro a b
      simp only [Bool.or_eq_true, Bool.and_eq_true, decide_eq_true_eq, beq_iff_eq]
      omega
  refine hsorted.imp ?_
  intro a b hab
  simpa only [Bool.or_eq_true, Bool.and_eq_true, decide_eq_true_eq, beq_iff_eq] using hab

theorem sortSegments_pairwise (parts : List LineSegment) :
    (sortSegments parts).Pairwise fun a b => a.start ≤ b.start := by
  refine (sortSegments_sorted parts).imp ?_
  intro a b hab
  omega

/-- Parts that lie one after the other are sorted. -/
theorem sortSegments_of_pairwise (hwidth : ∀ a ∈ parts, a.start ≤ a.stop)
    (h : parts.Pairwise fun a b => a.stop ≤ b.start) : sortSegments parts = parts := by
  refine List.mergeSort_of_pairwise (h.imp_of_mem ?_)
  intro a b ha hb hab
  have := hwidth a ha
  have := hwidth b hb
  rw [Bool.or_eq_true, Bool.and_eq_true, decide_eq_true_eq, beq_iff_eq, decide_eq_true_eq]
  omega

/-- Parts are sorted in one way only if no two begin and stop in the same columns. -/
theorem partsOn_of_perm {segments : List Segment} {n : Nat} {text : Text}
    (hperm : (segments.filterMap fun segment => partOn segment n text.length).Perm parts)
    (hsorted : parts.Pairwise fun a b =>
      a.start < b.start ∨ a.start = b.start ∧ a.stop < b.stop) :
    partsOn segments n text = parts := by
  have hsort : (partsOn segments n text).Perm parts := (sortSegments_perm _).trans hperm
  -- Two of the parts that begin and stop in the same columns are the same one.
  let Same (a b : LineSegment) : Prop := a.start = b.start → a.stop = b.stop → a = b
  have hsymm : Std.Symm Same := ⟨fun a b hab hstart hstop => (hab hstart.symm hstop.symm).symm⟩
  have hpairs : parts.Pairwise Same := hsorted.imp fun hab hstart hstop => by omega
  have hsame := hpairs.forall_of_forall fun a _ _ _ => rfl
  refine List.Perm.eq_of_pairwise (fun a b ha hb hab hba => ?_) (sortSegments_sorted _)
    (hsorted.imp fun hab => ?_) hsort
  · exact hsame (hsort.mem_iff.1 ha) hb (by omega) (by omega)
  · omega

/-- Parts that lie one after the other do not clash. -/
theorem firstClash?_eq_none (h : parts.Pairwise fun a b => a.stop ≤ b.start) :
    firstClash? parts = none := by
  induction parts with
  | nil => rfl
  | cons a parts ih =>
      cases parts with
      | nil => rfl
      | cons b parts =>
          obtain ⟨hfirst, hrest⟩ := List.pairwise_cons.1 h
          have hab := hfirst b (List.mem_cons_self ..)
          rw [firstClash?, if_neg (by omega)]
          exact ih hrest

/-- Sorted parts lie one after the other if no two neighbours clash. -/
theorem pairwise_of_firstClash?_eq_none (hsorted : parts.Pairwise fun a b => a.start ≤ b.start)
    (h : firstClash? parts = none) : parts.Pairwise fun a b => a.stop ≤ b.start := by
  induction parts with
  | nil => exact .nil
  | cons a parts ih =>
    cases parts with
    | nil => exact List.pairwise_singleton _ _
    | cons b parts =>
      obtain ⟨-, hrest⟩ := List.pairwise_cons.1 hsorted
      rw [firstClash?] at h
      split at h
      · cases h
      · next hab =>
        -- What comes after the next part starts no earlier than that one.
        have hpairwise := ih hrest h
        refine List.pairwise_cons.2 ⟨?_, hpairwise⟩
        intro c hc
        rcases List.mem_cons.1 hc with rfl | hc
        · omega
        · have hbc := (List.pairwise_cons.1 hrest).1 c hc
          omega

theorem clashIn?_eq_none {table : List (List LineSegment)} {n : Nat}
    (h : ∀ parts ∈ table, firstClash? parts = none) : clashIn? n table = none := by
  induction table generalizing n with
  | nil => rfl
  | cons parts table ih =>
      obtain ⟨hfirst, hrest⟩ := List.forall_mem_cons.1 h
      rw [clashIn?, hfirst]
      exact ih hrest

theorem firstClash?_of_clashIn? {table : List (List LineSegment)} {n : Nat}
    (h : clashIn? n table = none) (hparts : parts ∈ table) : firstClash? parts = none := by
  induction table generalizing n with
  | nil => cases hparts
  | cons first table ih =>
    rw [clashIn?] at h
    split at h
    · cases h
    · next hfirst =>
      rcases List.mem_cons.1 hparts with rfl | hparts
      · exact hfirst
      · exact ih h hparts

/-- Parts that lie one after the other have no column in common. -/
theorem not_covers_of_stop_le {a b : LineSegment} (h : a.stop ≤ b.start) (column : Nat) :
    ¬ (a.covers column = true ∧ b.covers column = true) := by
  simp only [LineSegment.covers, Bool.and_eq_true, decide_eq_true_eq]
  omega

theorem countP_covers_le_one (h : parts.Pairwise fun a b => a.stop ≤ b.start) (column : Nat) :
    parts.countP (·.covers column) ≤ 1 :=
  countP_le_one (h.imp fun hab => not_covers_of_stop_le hab column)

theorem countP_covers_eq_one {column : Nat} (h : parts.Pairwise fun a b => a.stop ≤ b.start)
    (hcovers : ∃ part ∈ parts, part.covers column = true) :
    parts.countP (·.covers column) = 1 :=
  countP_eq_one (h.imp fun hab => not_covers_of_stop_le hab column) hcovers

end order

/-! ## Attaching -/

section attach

variable {s : Source} {segments : List Segment} {n : Nat} {text : Text}

/-- Segments can be attached if no two of them overlap on a line, and their parts are then the
segments of the lines. -/
theorem attach_eq_ok_iff {t : Source} : s.attach segments = .ok t ↔
    clashIn? 1 (s.partTable segments) = none ∧
      t = { s with segments := s.partTable segments, classified := true } := by
  rw [attach]
  cases clashIn? 1 (s.partTable segments) with
  | some error => simp only [reduceCtorEq, false_and]
  | none => simp only [Except.ok.injEq, true_and, eq_comm]

/-- Whether no segment begins past the end of its line. -/
def Fits (s : Source) (segment : Segment) : Prop :=
  ∀ text, s.line? segment.span.start.line = some text →
    segment.span.start.column ≤ text.length + 1

theorem parts_pairwise (hvalid : ∀ segment ∈ segments, segment.span.IsValid)
    (horder : segments.Pairwise fun u v => u.span.stop ≤ v.span.start) (n width : Nat) :
    (segments.filterMap fun segment => partOn segment n width).Pairwise
      fun a b => a.stop ≤ b.start := by
  rw [List.pairwise_filterMap]
  refine horder.imp_of_mem ?_
  intro u v hu hv huv a ha b hb
  exact part_stop_le_start (hvalid u hu) (hvalid v hv) huv ha hb

/-- The parts of segments that lie in the text one after the other are already sorted. -/
theorem partsOn_eq_filterMap (hvalid : ∀ segment ∈ segments, segment.span.IsValid)
    (hfits : ∀ segment ∈ segments, s.Fits segment)
    (horder : segments.Pairwise fun u v => u.span.stop ≤ v.span.start)
    (hline : s.line? n = some text) : partsOn segments n text =
      segments.filterMap (fun segment => partOn segment n text.length) := by
  refine sortSegments_of_pairwise ?_ (parts_pairwise hvalid horder n text.length)
  intro part hpart
  obtain ⟨segment, hsegment, hpart⟩ := List.mem_filterMap.1 hpart
  refine part_start_le_stop (hvalid segment hsegment) ?_ hpart
  intro hn
  exact hfits segment hsegment text (hn ▸ hline)

theorem line?_succ (s : Source) (i : Nat) : s.line? (i + 1) = s.lines[i]? := by
  rw [line?, atLine, if_neg (Nat.succ_ne_zero i), Nat.add_sub_cancel]

/-- Segments that lie in the text one after the other can be attached. -/
theorem attach_eq_ok (hvalid : ∀ segment ∈ segments, segment.span.IsValid)
    (hfits : ∀ segment ∈ segments, s.Fits segment)
    (horder : segments.Pairwise fun u v => u.span.stop ≤ v.span.start) :
    s.attach segments = .ok { s with segments := s.partTable segments, classified := true } := by
  refine attach_eq_ok_iff.2 ⟨clashIn?_eq_none ?_, rfl⟩
  intro parts hparts
  obtain ⟨i, hi, rfl⟩ := List.mem_mapIdx.1 hparts
  have hline : s.line? (i + 1) = some s.lines[i] := by
    rw [line?_succ, List.getElem?_eq_getElem hi]
  rw [partsOn_eq_filterMap hvalid hfits horder hline]
  exact firstClash?_eq_none (parts_pairwise hvalid horder (i + 1) s.lines[i].length)

/-- The segments of a line after attaching are their parts on it. -/
theorem segmentsAt_partTable (hline : s.line? n = some text) :
    segmentsAt { s with segments := s.partTable segments, classified := true } n =
      partsOn segments n text := by
  cases n with
  | zero => cases hline
  | succ i =>
      rw [line?_succ] at hline
      simp only [segmentsAt, atLine, partTable, Nat.succ_ne_zero, if_false, Nat.add_sub_cancel,
        List.getElem?_mapIdx, hline, Option.map_some, Option.getD_some]

theorem segmentsAt_partTable_of_none (hline : s.line? n = none) :
    segmentsAt { s with segments := s.partTable segments, classified := true } n = [] := by
  cases n with
  | zero => rfl
  | succ i =>
      rw [line?_succ] at hline
      simp only [segmentsAt, atLine, partTable, Nat.succ_ne_zero, if_false, Nat.add_sub_cancel,
        List.getElem?_mapIdx, hline, Option.map_none, Option.getD_none]

end attach

end Source

end YamlListing

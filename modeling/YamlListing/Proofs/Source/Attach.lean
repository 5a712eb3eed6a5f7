import YamlListing.Proofs.Source.Parts

set_option autoImplicit false

/-! # What attached segments cover

The parts that a segment is cut into cover those columns of the lines whose positions lie in its
span (`exists_covering_part_iff`), and a segment without width has one part without width
(`partOn_eq_some_empty_iff`). Sorting the parts of a line only changes their order. Main statement:
once segments are attached, every column of the text has the categories of the given segments there,
every place between columns as many parts without width as there were segments, and segments that
are refused leave the source as it was (`attachInPlace_outcome`). -/

namespace YamlListing

theorem LineSegment.covers_iff {part : LineSegment} {column : Nat} :
    part.covers column = true ↔ part.start ≤ column ∧ column < part.stop := by
  rw [covers, Bool.and_eq_true, decide_eq_true_eq, decide_eq_true_eq]

namespace Source

open LineSegment (covers_iff)
open Yaml (Segment)

/-! ## The part of a segment -/

section partOn

variable {segment : Segment} {n width column : Nat} {category : Category} {part : LineSegment}

/-- A column of a line that lies in a part of a segment lies in the segment. -/
theorem contains_of_covers (h : segment.span.IsValid) (hpart : partOn segment n width = some part)
    (hcovers : part.covers column = true) : segment.span.contains ⟨n, column⟩ = true := by
  obtain ⟨hfirst, hlast, hstart, hstop, -, -⟩ := partOn_eq_some h hpart
  obtain ⟨hlow, hhigh⟩ := covers_iff.1 hcovers
  have hline := segment.span.lastLine_le
  rw [Span.firstLine] at hfirst
  rw [hstart] at hlow
  rw [hstop, partStop] at hhigh
  rw [Span.contains_iff, Position.le_def, Position.lt_def]
  constructor
  · by_cases hn : n = segment.span.start.line
    · rw [hn, clipStart_column_of_first] at hlow
      exact Or.inr ⟨hn.symm, hlow⟩
    · exact Or.inl (by simp only; omega)
  · split at hhigh
    · exact Or.inl ‹_›
    · exact Or.inr ⟨by simp only; omega, hhigh⟩

/-- The part of a segment on a line covers the columns whose positions lie in the segment. -/
theorem exists_covering_part_iff (h : segment.span.IsValid) (hcolumn : 1 ≤ column)
    (hwidth : column ≤ width) :
    (∃ part, partOn segment n width = some part ∧ part.category = category ∧
      part.covers column = true) ↔
      segment.category = category ∧ segment.span.contains ⟨n, column⟩ = true := by
  constructor
  · rintro ⟨part, hpart, rfl, hcovers⟩
    obtain ⟨-, -, -, -, hcategory, -⟩ := partOn_eq_some h hpart
    exact ⟨hcategory.symm, contains_of_covers h hpart hcovers⟩
  · rintro ⟨rfl, hcontains⟩
    obtain ⟨part, hpart, hcovers⟩ := exists_part_of_contains h hcolumn hwidth hcontains
    obtain ⟨-, -, -, -, hcategory, -⟩ := partOn_eq_some h hpart
    exact ⟨part, hpart, hcategory, hcovers⟩

/-- A part has no width exactly if it is that of a segment without width. -/
theorem partOn_eq_some_empty_iff (width : Nat) (h : segment.span.IsValid) :
    partOn segment n width = some ⟨column, column, category⟩ ↔
      segment.span = .empty ⟨n, column⟩ ∧ segment.category = category := by
  constructor
  · intro hpart
    obtain ⟨hfirst, hlast, hstart, -, hcategory, hempty⟩ := partOn_eq_some h hpart
    have hspan : segment.span.start = segment.span.stop := by
      have hsame := hempty (by rw [LineSegment.isEmpty, beq_self_eq_true])
      rwa [Span.isEmpty, beq_iff_eq] at hsame
    have hle := segment.span.lastLine_le
    rw [Span.firstLine] at hfirst
    obtain rfl : n = segment.span.start.line := by
      rw [← hspan] at hle
      omega
    rw [clipStart_column_of_first] at hstart
    refine ⟨?_, hcategory.symm⟩
    calc segment.span
      _ = ⟨segment.span.start, segment.span.stop⟩ := rfl
      _ = .empty segment.span.start := by rw [← hspan, Span.empty]
      _ = .empty ⟨segment.span.start.line, column⟩ := congrArg (Span.empty ⟨_, ·⟩) hstart.symm
  · rintro ⟨hspan, rfl⟩
    have hcolumn := h.one_le_start
    rw [hspan] at hcolumn
    have hlast : (Span.empty ⟨n, column⟩).lastLine = n := by simp [Span.lastLine, Span.empty]
    rw [← hspan] at hlast
    rw [partOn_of_touched h (by rw [hspan]; exact Nat.le_refl n) (Nat.le_of_eq hlast.symm), hspan]
    simp [Span.empty, Span.isEmpty, Span.clipStart, partStop]

end partOn

/-! ## The parts of segments on a line -/

section partsOn

variable {segments : List Segment} {n column : Nat} {text : Text} {category : Category}
  {part : LineSegment}

theorem mem_partsOn : part ∈ partsOn segments n text ↔
    ∃ segment ∈ segments, partOn segment n text.length = some part := by
  rw [partsOn, (sortSegments_perm _).mem_iff, List.mem_filterMap]

/-- A part on a line covers a column exactly if a segment of its category does. -/
theorem exists_covering_partsOn_iff (hvalid : ∀ segment ∈ segments, segment.span.IsValid)
    (hcolumn : 1 ≤ column) (hwidth : column ≤ text.length) :
    (∃ part ∈ partsOn segments n text, part.category = category ∧ part.covers column = true) ↔
      ∃ segment ∈ segments, segment.category = category ∧
        segment.span.contains ⟨n, column⟩ = true := by
  constructor
  · rintro ⟨part, hpart, hcovers⟩
    obtain ⟨segment, hsegment, hpart⟩ := mem_partsOn.1 hpart
    exact ⟨segment, hsegment, (exists_covering_part_iff (hvalid segment hsegment) hcolumn
      hwidth).1 ⟨part, hpart, hcovers⟩⟩
  · rintro ⟨segment, hsegment, hcontains⟩
    obtain ⟨part, hpart, hcovers⟩ :=
      (exists_covering_part_iff (hvalid segment hsegment) hcolumn hwidth).2 hcontains
    exact ⟨part, mem_partsOn.2 ⟨segment, hsegment, hpart⟩, hcovers⟩

/-- There are as many parts without width at a column as segments without width. -/
theorem count_empty_partsOn (hvalid : ∀ segment ∈ segments, segment.span.IsValid) :
    (partsOn segments n text).count ⟨column, column, category⟩ =
      segments.countP fun segment =>
        segment.span = .empty ⟨n, column⟩ ∧ segment.category = category := by
  rw [partsOn, (sortSegments_perm _).count_eq, List.count, List.countP_filterMap]
  refine List.countP_congr fun segment hsegment => ?_
  rw [decide_eq_true_eq, ← partOn_eq_some_empty_iff text.length (hvalid segment hsegment)]
  cases partOn segment n text.length with
  | none => simp
  | some part => simp

end partsOn

/-! ## Attaching -/

section attach

variable {s t : Source} {segments : List Segment}

theorem attach_eq_error_iff {error : SourceError} :
    s.attach segments = .error error ↔ clashIn? 1 (s.partTable segments) = some error := by
  rw [attach]
  cases clashIn? 1 (s.partTable segments) with
  | some _ => simp only [Except.error.injEq, Option.some.injEq]
  | none => simp only [reduceCtorEq]

/-- Whether the segments of a source's lines are given ones, cut into parts. -/
structure Carries (t : Source) (segments : List Segment) : Prop where
  /-- The parts cover the columns of the text that the given segments do. -/
  covers_iff : ∀ n text, t.line? n = some text → ∀ column, 1 ≤ column → column ≤ text.length →
    ∀ category, (∃ part ∈ t.segmentsAt n, part.category = category ∧ part.covers column = true) ↔
      ∃ segment ∈ segments, segment.category = category ∧
        segment.span.contains ⟨n, column⟩ = true
  /-- The parts without width are the given segments without width. -/
  count_empty : ∀ n text, t.line? n = some text → ∀ column category,
    (t.segmentsAt n).count ⟨column, column, category⟩ = segments.countP fun segment =>
      segment.span = .empty ⟨n, column⟩ ∧ segment.category = category

/-- Attached segments are carried, and nothing else about the source is changed. -/
theorem carries_of_attach (hvalid : ∀ segment ∈ segments, segment.span.IsValid)
    (h : s.attach segments = .ok t) :
    t.Carries segments ∧ t = { s with segments := t.segments, classified := true } := by
  obtain ⟨-, rfl⟩ := attach_eq_ok_iff.1 h
  refine ⟨⟨?_, ?_⟩, rfl⟩
  · intro n text hline column hcolumn hwidth category
    rw [segmentsAt_partTable (s := s) hline]
    exact exists_covering_partsOn_iff hvalid hcolumn hwidth
  · intro n text hline column category
    rw [segmentsAt_partTable (s := s) hline]
    exact count_empty_partsOn hvalid

/-! ## In place -/

/-- The parts of segments on each line from line `n` on; the first clash ends it. -/
def checkedTable (segments : List Segment) (n : Nat) :
    List Text → ExceptT SourceError (StateM Source) (List (List LineSegment))
  | [] => return []
  | text :: rest => do
    let parts := partsOn segments n text
    if let some (a, b) := firstClash? parts then
      throw (.overlappingSegments n (a.start, a.stop) (b.start, b.stop))
    return parts :: (← checkedTable segments (n + 1) rest)

/-- Attaching segments to a source in place: the parts on all lines are checked before the source is
written to, one field after the other. -/
def attachInPlace (segments : List Segment) : ExceptT SourceError (StateM Source) Unit := do
  let table ← checkedTable segments 1 (← get).lines
  modify fun s => { s with segments := table }
  modify fun s => { s with classified := true }

/-- Checking the parts does not write to the source. -/
theorem checkedTable_run (segments : List Segment) (s : Source) (n : Nat) (lines : List Text) :
    (checkedTable segments n lines).run.run s =
      let table := lines.mapIdx fun i text => partsOn segments (i + n) text
      match clashIn? n table with
      | some error => (.error error, s)
      | none => (.ok table, s) := by
  induction lines generalizing n with
  | nil => rfl
  | cons text rest ih =>
    have hnext : (fun i text => partsOn segments (i + 1 + n) text) =
        fun i text => partsOn segments (i + (n + 1)) text := by
      funext i text
      rw [Nat.add_right_comm, Nat.add_assoc]
    simp only [checkedTable, List.mapIdx_cons, Nat.zero_add, clashIn?, hnext]
    cases firstClash? (partsOn segments n text) with
    | some clash => rfl
    | none =>
      have hrun := ih (n + 1)
      simp only at hrun ⊢
      rw [ExceptT.run_bind, StateT.run_bind, hrun]
      cases clashIn? (n + 1) _ <;> rfl

/-- Attaching in place answers and leaves what attaching does. -/
theorem attachInPlace_run (segments : List Segment) (s : Source) :
    (attachInPlace segments).run.run s = match s.attach segments with
      | .ok t => (.ok (), t)
      | .error error => (.error error, s) := by
  have hrun := checkedTable_run segments s 1 s.lines
  simp only at hrun
  -- Reading the source is the first step, so the lines are those of `s`.
  change StateT.run (checkedTable segments 1 s.lines >>= _).run s = _
  rw [ExceptT.run_bind, StateT.run_bind, hrun, attach, partTable]
  cases clashIn? 1 _ <;> rfl

/-- Segments that can be attached are carried afterwards, and nothing else about the source is
changed. If they cannot be attached nothing is changed. -/
theorem attachInPlace_outcome (s : Source) {segments : List Segment}
    (hvalid : ∀ segment ∈ segments, segment.span.IsValid) :
    (∀ t, s.attach segments = .ok t → (attachInPlace segments).run.run s = (.ok (), t) ∧
      t.Carries segments ∧ t = { s with segments := t.segments, classified := true }) ∧
    ∀ error, s.attach segments = .error error →
      (attachInPlace segments).run.run s = (.error error, s) := by
  constructor
  · intro t h
    exact ⟨by rw [attachInPlace_run, h], carries_of_attach hvalid h⟩
  · intro error h
    rw [attachInPlace_run, h]

/-- A segment over two lines, with one that has no width after it and one that no line is there for;
and then two that clash. -/
theorem attachInPlace_outcome_twoLines :
    let s : Source := .ofLines ["ab".toList, "cdef".toList] none
    let given : List Segment := [⟨⟨⟨7, 1⟩, ⟨8, 1⟩⟩, .text, []⟩,
      ⟨.empty ⟨2, 3⟩, .literalNullImplicit, []⟩, ⟨⟨⟨1, 2⟩, ⟨2, 3⟩⟩, .comment, []⟩]
    let clashing : List Segment := [⟨.onLine 2 1 3, .text, []⟩, ⟨.onLine 2 2 4, .comment, []⟩]
    let t : Source := { s with
      segments := [[⟨2, 3, .comment⟩], [⟨1, 3, .comment⟩, ⟨3, 3, .literalNullImplicit⟩]]
      classified := true }
    (attachInPlace given).run.run s = (.ok (), t) ∧ t.Carries given ∧
      (attachInPlace clashing).run.run t = (.error (.overlappingSegments 2 (1, 3) (2, 4)), t) := by
  intro s given clashing t
  have hgiven : ∀ segment ∈ given, segment.span.IsValid := by
    simp only [given, List.forall_mem_cons]
    exact ⟨⟨by decide, by decide, by decide⟩, ⟨by decide, by decide, by decide⟩,
      ⟨by decide, by decide, by decide⟩, List.forall_mem_nil _⟩
  have hclashing : ∀ segment ∈ clashing, segment.span.IsValid := by
    simp only [clashing, List.forall_mem_cons]
    exact ⟨⟨by decide, by decide, by decide⟩, ⟨by decide, by decide, by decide⟩,
      List.forall_mem_nil _⟩
  have hfirst : partsOn given 1 "ab".toList = [⟨2, 3, .comment⟩] :=
    partsOn_of_perm (by decide) (by decide)
  have hsecond : partsOn given 2 "cdef".toList =
      [⟨1, 3, .comment⟩, ⟨3, 3, .literalNullImplicit⟩] := partsOn_of_perm (by decide) (by decide)
  have htable : s.partTable given = t.segments := by
    change [partsOn given 1 "ab".toList, partsOn given 2 "cdef".toList] = t.segments
    rw [hfirst, hsecond]
  have hattach : s.attach given = .ok t := by
    rw [attach_eq_ok_iff, htable]
    exact ⟨by decide, rfl⟩
  have hnothing : partsOn clashing 1 "ab".toList = [] := partsOn_of_perm (by decide) (by decide)
  have hboth : partsOn clashing 2 "cdef".toList = [⟨1, 3, .text⟩, ⟨2, 4, .comment⟩] :=
    partsOn_of_perm (by decide) (by decide)
  have hclash : clashIn? 1 (t.partTable clashing) =
      some (.overlappingSegments 2 (1, 3) (2, 4)) := by
    change clashIn? 1 [partsOn clashing 1 "ab".toList, partsOn clashing 2 "cdef".toList] = _
    rw [hnothing, hboth]
    rfl
  obtain ⟨hrun, hcarries, -⟩ := (attachInPlace_outcome s hgiven).1 t hattach
  have hrefused := (attachInPlace_outcome t hclashing).2 _ (attach_eq_error_iff.2 hclash)
  exact ⟨hrun, hcarries, hrefused⟩

end attach

end Source

end YamlListing

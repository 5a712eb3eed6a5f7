import YamlListing.Proofs.Source.Attach

set_option autoImplicit false

/-! # Which segments are refused

The parts on a line are sorted and then only neighbours are compared. That is enough to see whether
all of them lie one after the other (`firstClash?_sortSegments_eq_none_iff`). Two segments of the
text have parts that do not if they claim a column in common, and also if one of them has no width,
and so claims no column, but sits between two columns of the other. Main statement: segments of the
text are refused exactly if there are two of this kind on a line, and the error names the first such
line (`attach_answers`). -/

namespace YamlListing

namespace LineSegment

/-- Whether one of two segments of a line stops before the other begins. -/
def Apart (a b : LineSegment) : Prop := a.stop ≤ b.start ∨ b.stop ≤ a.start

theorem Apart.symm {a b : LineSegment} (h : a.Apart b) : b.Apart a := Or.symm h

end LineSegment

namespace Source

open LineSegment (Apart covers_iff)
open Yaml (Segment)

/-! ## Neighbours -/

section neighbours

variable {parts : List LineSegment} {table : List (List LineSegment)} {n line : Nat}
  {first second : Nat × Nat}

/-- That no neighbours clash once the parts are sorted means that all parts are apart. -/
theorem firstClash?_sortSegments_eq_none_iff (hparts : ∀ a ∈ parts, a.start ≤ a.stop) :
    firstClash? (sortSegments parts) = none ↔ parts.Pairwise Apart := by
  rw [← (sortSegments_perm parts).pairwise_iff Apart.symm]
  constructor
  · intro h
    exact (pairwise_of_firstClash?_eq_none (sortSegments_pairwise parts) h).imp Or.inl
  · intro h
    refine firstClash?_eq_none (((sortSegments_sorted parts).and h).imp_of_mem ?_)
    rintro a b - hb ⟨hsorted, hapart⟩
    -- If the second stops before the first begins, both are without width at the same place.
    have hle := hparts b ((sortSegments_perm parts).mem_iff.1 hb)
    rw [Apart] at hapart
    omega

theorem clashIn?_eq_none_iff :
    clashIn? n table = none ↔ ∀ parts ∈ table, firstClash? parts = none :=
  ⟨fun h _ hparts => firstClash?_of_clashIn? h hparts, clashIn?_eq_none⟩

/-- The error names the first line on which neighbours clash. -/
theorem exists_clashIn?_eq_some_iff :
    (∃ first second, clashIn? n table = some (.overlappingSegments line first second)) ↔
      ∃ i, line = n + i ∧ (∃ parts, table[i]? = some parts ∧ firstClash? parts ≠ none) ∧
        ∀ j < i, ∀ parts, table[j]? = some parts → firstClash? parts = none := by
  induction table generalizing n with
  | nil => simp [clashIn?]
  | cons parts table ih =>
    rw [clashIn?]
    cases hclash : firstClash? parts with
    | some pair =>
      simp only [Option.some.injEq, SourceError.overlappingSegments.injEq]
      constructor
      · rintro ⟨_, _, rfl, -, -⟩
        refine ⟨0, rfl, ⟨parts, rfl, ?_⟩, fun j hj => absurd hj (Nat.not_lt_zero j)⟩
        rw [hclash]
        exact Option.some_ne_none pair
      · rintro ⟨i, rfl, -, hbefore⟩
        cases i with
        | zero => exact ⟨_, _, rfl, rfl, rfl⟩
        | succ i =>
          have hnone := hbefore 0 (Nat.succ_pos i) parts rfl
          rw [hclash] at hnone
          cases hnone
    | none =>
      simp only [ih]
      constructor
      · rintro ⟨i, rfl, hclashes, hbefore⟩
        refine ⟨i + 1, by omega, hclashes, ?_⟩
        intro j hj parts' hparts'
        cases j with
        | zero =>
          obtain rfl := Option.some.inj hparts'
          exact hclash
        | succ j => exact hbefore j (Nat.lt_of_succ_lt_succ hj) parts' hparts'
      · rintro ⟨i, rfl, hclashes, hbefore⟩
        cases i with
        | zero =>
          obtain ⟨parts', hparts', hsome⟩ := hclashes
          obtain rfl := Option.some.inj hparts'
          exact absurd hclash hsome
        | succ i =>
          refine ⟨i, by omega, hclashes, ?_⟩
          intro j hj parts' hparts'
          exact hbefore (j + 1) (Nat.succ_lt_succ hj) parts' hparts'

end neighbours

/-! ## Segments of the text -/

/-- Whether a position is in the text of a source, or right after a line of it. -/
def HasPosition (s : Source) (p : Position) : Prop :=
  ∃ text, s.line? p.line = some text ∧ 1 ≤ p.column ∧ p.column ≤ text.length + 1

/-- Whether a span lies in the text of a source. -/
structure Holds (s : Source) (span : Span) : Prop where
  start_le_stop : span.start ≤ span.stop
  start : s.HasPosition span.start
  stop : s.HasPosition span.stop

/-- Whether two segments claim a column of a line in common. -/
def ShareColumn (u v : Segment) (n width : Nat) : Prop :=
  ∃ column, 1 ≤ column ∧ column ≤ width ∧
    u.span.contains ⟨n, column⟩ = true ∧ v.span.contains ⟨n, column⟩ = true

/-- Whether a segment has no width and sits between two columns of a line that another one claims
both. -/
def SitsWithin (u v : Segment) (n width : Nat) : Prop :=
  ∃ column, 1 ≤ column ∧ column < width ∧ u.span = .empty ⟨n, column + 1⟩ ∧
    v.span.contains ⟨n, column⟩ = true ∧ v.span.contains ⟨n, column + 1⟩ = true

/-- Whether two segments clash on a line. -/
def Clash (u v : Segment) (n width : Nat) : Prop :=
  ShareColumn u v n width ∨ SitsWithin u v n width ∨ SitsWithin v u n width

/-- Whether two of some segments clash on a line of a source. -/
def Clashes (s : Source) (segments : List Segment) (n : Nat) : Prop :=
  ∃ text, s.line? n = some text ∧
    ∃ u v, [u, v].Sublist segments ∧ Clash u v n text.length

section Clash

variable {s : Source} {segments : List Segment} {segment u v : Segment} {n : Nat} {text : Text}
  {part a b : LineSegment}

theorem Holds.isValid {span : Span} (h : s.Holds span) : span.IsValid := by
  obtain ⟨_, -, hstart, -⟩ := h.start
  obtain ⟨_, -, hstop, -⟩ := h.stop
  exact ⟨h.start_le_stop, hstart, hstop⟩

/-- The part of a segment of the text lies in its line. -/
theorem Holds.bounds_partOn (h : s.Holds segment.span) (hline : s.line? n = some text)
    (hpart : partOn segment n text.length = some part) :
    1 ≤ part.start ∧ part.start ≤ part.stop ∧ part.stop ≤ text.length + 1 := by
  obtain ⟨startLine, hstartLine, hstartColumn, hstartWidth⟩ := h.start
  obtain ⟨stopLine, hstopLine, -, hstopWidth⟩ := h.stop
  obtain ⟨-, hlast, hstart, hstop, -, -⟩ := partOn_eq_some h.isValid hpart
  have hle := segment.span.lastLine_le
  refine ⟨?_, part_start_le_stop h.isValid ?_ hpart, ?_⟩
  · rw [hstart, Span.clipStart]
    split
    · exact hstartColumn
    · exact Nat.le_refl 1
  · rintro rfl
    rw [hline] at hstartLine
    obtain rfl := Option.some.inj hstartLine
    exact hstartWidth
  · rw [hstop, partStop]
    split
    · exact Nat.le_refl _
    · next hn =>
      obtain rfl : n = segment.span.stop.line := by omega
      rw [hline] at hstopLine
      obtain rfl := Option.some.inj hstopLine
      exact hstopWidth

/-- Segments share a column if their parts do. -/
theorem shareColumn_iff (hu : s.Holds u.span) (hv : s.Holds v.span)
    (hline : s.line? n = some text) : ShareColumn u v n text.length ↔
      ∃ a b, partOn u n text.length = some a ∧ partOn v n text.length = some b ∧
        max a.start b.start < min a.stop b.stop := by
  constructor
  · rintro ⟨column, hcolumn, hwidth, hinU, hinV⟩
    obtain ⟨a, ha, hcoversA⟩ := exists_part_of_contains hu.isValid hcolumn hwidth hinU
    obtain ⟨b, hb, hcoversB⟩ := exists_part_of_contains hv.isValid hcolumn hwidth hinV
    rw [covers_iff] at hcoversA hcoversB
    exact ⟨a, b, ha, hb, by omega⟩
  · rintro ⟨a, b, ha, hb, hlt⟩
    have hboundsA := hu.bounds_partOn hline ha
    have hcoversA : a.covers (max a.start b.start) = true := covers_iff.2 (by omega)
    have hcoversB : b.covers (max a.start b.start) = true := covers_iff.2 (by omega)
    exact ⟨max a.start b.start, by omega, by omega, contains_of_covers hu.isValid ha hcoversA,
      contains_of_covers hv.isValid hb hcoversB⟩

/-- A segment without width sits within another if its part sits within the part of the other. -/
theorem sitsWithin_iff (hu : s.Holds u.span) (hv : s.Holds v.span)
    (hline : s.line? n = some text) : SitsWithin u v n text.length ↔
      ∃ a b, partOn u n text.length = some a ∧ partOn v n text.length = some b ∧
        a.start = a.stop ∧ b.start < a.start ∧ a.start < b.stop := by
  constructor
  · rintro ⟨column, hcolumn, hwidth, hempty, hin, hin'⟩
    obtain ⟨b, hb, hcovers⟩ :=
      exists_part_of_contains hv.isValid hcolumn (Nat.le_of_lt hwidth) hin
    obtain ⟨b', hb', hcovers'⟩ :=
      exists_part_of_contains hv.isValid (Nat.le_add_left 1 column) hwidth hin'
    obtain rfl := Option.some.inj (hb.symm.trans hb')
    rw [covers_iff] at hcovers hcovers'
    have ha := (partOn_eq_some_empty_iff text.length hu.isValid).2 ⟨hempty, rfl⟩
    exact ⟨_, b, ha, hb, rfl, Nat.lt_succ_of_le hcovers.1, hcovers'.2⟩
  · rintro ⟨⟨column, stop, category⟩, b, ha, hb, hwidth, hlow, hhigh⟩
    obtain rfl : column = stop := hwidth
    simp only at hlow hhigh
    obtain ⟨hempty, -⟩ := (partOn_eq_some_empty_iff text.length hu.isValid).1 ha
    have hbounds := hv.bounds_partOn hline hb
    have hcovers : b.covers (column - 1) = true := covers_iff.2 (by omega)
    have hcovers' : b.covers column = true := covers_iff.2 (by omega)
    have hsucc : column - 1 + 1 = column := by omega
    refine ⟨column - 1, by omega, by omega, ?_, contains_of_covers hv.isValid hb hcovers, ?_⟩
    · rw [hsucc, hempty]
    · rw [hsucc]
      exact contains_of_covers hv.isValid hb hcovers'

/-- Segments of the text clash on a line exactly if their parts on it are not apart. -/
theorem clash_iff (hu : s.Holds u.span) (hv : s.Holds v.span) (hline : s.line? n = some text) :
    Clash u v n text.length ↔ ∃ a b, partOn u n text.length = some a ∧
      partOn v n text.length = some b ∧ ¬ a.Apart b := by
  rw [Clash, shareColumn_iff hu hv hline, sitsWithin_iff hu hv hline, sitsWithin_iff hv hu hline]
  constructor
  · rintro (⟨a, b, ha, hb, hboth⟩ | ⟨a, b, ha, hb, hwithin⟩ | ⟨b, a, hb, ha, hwithin⟩)
    all_goals
      refine ⟨a, b, ha, hb, ?_⟩
      rw [Apart]
      omega
  · rintro ⟨a, b, ha, hb, hclash⟩
    have hboundsA := hu.bounds_partOn hline ha
    have hboundsB := hv.bounds_partOn hline hb
    rw [Apart, not_or, Nat.not_le, Nat.not_le] at hclash
    by_cases hemptyA : a.start = a.stop
    · exact Or.inr (Or.inl ⟨a, b, ha, hb, hemptyA, by omega⟩)
    · by_cases hemptyB : b.start = b.stop
      · exact Or.inr (Or.inr ⟨b, a, hb, ha, hemptyB, by omega⟩)
      · exact Or.inl ⟨a, b, ha, hb, by omega⟩

/-! ## Attaching -/

/-- The parts of segments of the text have a clash of neighbours exactly if two of the segments
clash. -/
theorem firstClash?_partsOn_ne_none_iff (hheld : ∀ segment ∈ segments, s.Holds segment.span)
    (hline : s.line? n = some text) :
    firstClash? (partsOn segments n text) ≠ none ↔ s.Clashes segments n := by
  have hordered : ∀ part ∈ segments.filterMap fun segment => partOn segment n text.length,
      part.start ≤ part.stop := by
    intro part hpart
    obtain ⟨segment, hsegment, hpart⟩ := List.mem_filterMap.1 hpart
    exact ((hheld segment hsegment).bounds_partOn hline hpart).2.1
  rw [Ne, partsOn, firstClash?_sortSegments_eq_none_iff hordered, List.pairwise_filterMap,
    List.pairwise_iff_forall_sublist]
  have hpair {u v : Segment} (huv : [u, v].Sublist segments) := clash_iff
    (hheld u (huv.subset (by simp))) (hheld v (huv.subset (by simp))) hline
  constructor
  · intro h
    simp only [not_forall] at h
    obtain ⟨u, v, huv, a, ha, b, hb, hclash⟩ := h
    exact ⟨text, hline, u, v, huv, (hpair huv).2 ⟨a, b, ha, hb, hclash⟩⟩
  · rintro ⟨text', hline', u, v, huv, hclash⟩ h
    obtain rfl := Option.some.inj (hline.symm.trans hline')
    obtain ⟨a, b, ha, hb, hnot⟩ := (hpair huv).1 hclash
    exact hnot (h huv a ha b hb)

theorem not_clashes_zero : ¬ s.Clashes segments 0 := by
  rintro ⟨text, hline, -⟩
  cases hline

/-- The entries with a clash are those of the lines on which segments clash. -/
theorem exists_partTable_iff (hheld : ∀ segment ∈ segments, s.Holds segment.span) (i : Nat) :
    (∃ parts, (s.partTable segments)[i]? = some parts ∧ firstClash? parts ≠ none) ↔
      s.Clashes segments (i + 1) := by
  rw [partTable, List.getElem?_mapIdx, ← line?_succ]
  cases hline : s.line? (i + 1) with
  | none =>
    constructor
    · rintro ⟨parts, hparts, -⟩
      cases hparts
    · rintro ⟨text, htext, -⟩
      rw [hline] at htext
      cases htext
  | some text =>
    rw [← firstClash?_partsOn_ne_none_iff hheld hline, Option.map_some]
    simp only [Option.some.injEq, exists_eq_left']

/-- Segments of the text are attached unless two of them clash on a line; then the error names the
first such line. -/
theorem attach_answers (s : Source) {segments : List Segment}
    (hheld : ∀ segment ∈ segments, s.Holds segment.span) :
    ((∃ t, s.attach segments = .ok t) ↔ ∀ n, ¬ s.Clashes segments n) ∧
    ∀ n, (∃ first second, s.attach segments = .error (.overlappingSegments n first second)) ↔
      s.Clashes segments n ∧ ∀ m < n, ¬ s.Clashes segments m := by
  have hentry := exists_partTable_iff hheld
  constructor
  · have hok : (∃ t, s.attach segments = .ok t) ↔ clashIn? 1 (s.partTable segments) = none := by
      simp only [attach_eq_ok_iff, exists_and_left, exists_eq, and_true]
    rw [hok, clashIn?_eq_none_iff]
    constructor
    · intro h n hclash
      cases n with
      | zero => exact not_clashes_zero hclash
      | succ i =>
        obtain ⟨parts, hparts, hsome⟩ := (hentry i).2 hclash
        exact hsome (h parts (List.mem_of_getElem? hparts))
    · intro h parts hparts
      obtain ⟨i, hi⟩ := List.mem_iff_getElem?.1 hparts
      by_contra hsome
      exact h (i + 1) ((hentry i).1 ⟨parts, hi, hsome⟩)
  · intro n
    simp only [attach_eq_error_iff, exists_clashIn?_eq_some_iff, hentry]
    constructor
    · rintro ⟨i, rfl, hclash, hbefore⟩
      rw [Nat.add_comm]
      refine ⟨hclash, fun m hm hearlier => ?_⟩
      cases m with
      | zero => exact not_clashes_zero hearlier
      | succ j =>
        obtain ⟨parts, hparts, hsome⟩ := (hentry j).2 hearlier
        exact hsome (hbefore j (by omega) parts hparts)
    · rintro ⟨hclash, hbefore⟩
      cases n with
      | zero => exact absurd hclash not_clashes_zero
      | succ i =>
        refine ⟨i, Nat.add_comm i 1, hclash, fun j hj parts hparts => ?_⟩
        by_contra hsome
        exact hbefore (j + 1) (by omega) ((hentry j).1 ⟨parts, hparts, hsome⟩)

/-- Segments that touch and one without width where they do; and two that have a column of line 2 in
common. -/
theorem attach_answers_twoLines :
    let s : Source := .ofLines ["abc".toList, "def".toList] none
    let touching : List Segment := [⟨⟨⟨1, 3⟩, ⟨2, 2⟩⟩, .comment, []⟩,
      ⟨.empty ⟨1, 3⟩, .literalNullImplicit, []⟩, ⟨.onLine 1 1 3, .text, []⟩]
    let sharing : List Segment := [⟨.onLine 2 2 4, .text, []⟩, ⟨⟨⟨1, 3⟩, ⟨2, 3⟩⟩, .comment, []⟩]
    (∀ segment ∈ touching, s.Holds segment.span) ∧ (∃ t, s.attach touching = .ok t) ∧
      (∀ n, ¬ s.Clashes touching n) ∧ (∀ segment ∈ sharing, s.Holds segment.span) ∧
      s.attach sharing = .error (.overlappingSegments 2 (1, 3) (2, 4)) ∧
      s.Clashes sharing 2 ∧ ∀ m < 2, ¬ s.Clashes sharing m := by
  intro s touching sharing
  have hfirst (column : Nat) (h : 1 ≤ column ∧ column ≤ 4) : s.HasPosition ⟨1, column⟩ :=
    ⟨"abc".toList, rfl, h⟩
  have hsecond (column : Nat) (h : 1 ≤ column ∧ column ≤ 4) : s.HasPosition ⟨2, column⟩ :=
    ⟨"def".toList, rfl, h⟩
  have htouching : ∀ segment ∈ touching, s.Holds segment.span := by
    simp only [touching, List.forall_mem_cons]
    exact ⟨⟨by decide, hfirst 3 (by decide), hsecond 2 (by decide)⟩,
      ⟨by decide, hfirst 3 (by decide), hfirst 3 (by decide)⟩,
      ⟨by decide, hfirst 1 (by decide), hfirst 3 (by decide)⟩, List.forall_mem_nil _⟩
  have hsharing : ∀ segment ∈ sharing, s.Holds segment.span := by
    simp only [sharing, List.forall_mem_cons]
    exact ⟨⟨by decide, hsecond 2 (by decide), hsecond 4 (by decide)⟩,
      ⟨by decide, hfirst 3 (by decide), hsecond 3 (by decide)⟩, List.forall_mem_nil _⟩
  have hmeet : partsOn touching 1 "abc".toList =
      [⟨1, 3, .text⟩, ⟨3, 3, .literalNullImplicit⟩, ⟨3, 4, .comment⟩] :=
    partsOn_of_perm (by decide) (by decide)
  have hrest : partsOn touching 2 "def".toList = [⟨1, 2, .comment⟩] :=
    partsOn_of_perm (by decide) (by decide)
  have hnone : clashIn? 1 (s.partTable touching) = none := by
    change clashIn? 1 [partsOn touching 1 "abc".toList, partsOn touching 2 "def".toList] = none
    rw [hmeet, hrest]
    rfl
  have hattach : ∃ t, s.attach touching = .ok t := ⟨_, attach_eq_ok_iff.2 ⟨hnone, rfl⟩⟩
  have hone : partsOn sharing 1 "abc".toList = [⟨3, 4, .comment⟩] :=
    partsOn_of_perm (by decide) (by decide)
  have hboth : partsOn sharing 2 "def".toList = [⟨1, 3, .comment⟩, ⟨2, 4, .text⟩] :=
    partsOn_of_perm (by decide) (by decide)
  have hsome : clashIn? 1 (s.partTable sharing) =
      some (.overlappingSegments 2 (1, 3) (2, 4)) := by
    change clashIn? 1 [partsOn sharing 1 "abc".toList, partsOn sharing 2 "def".toList] = _
    rw [hone, hboth]
    rfl
  have hrefused := attach_eq_error_iff.2 hsome
  exact ⟨htouching, hattach, (attach_answers s htouching).1.1 hattach, hsharing, hrefused,
    ((attach_answers s hsharing).2 2).1 ⟨_, _, hrefused⟩⟩

/-- A segment without width shares no column with any other. -/
theorem not_shareColumn_empty {p : Position} {n width : Nat} (h : v.span = .empty p) :
    ¬ ShareColumn u v n width := by
  rintro ⟨column, -, -, -, hcontains⟩
  rw [h, Span.contains_iff] at hcontains
  exact Position.not_lt.2 hcontains.1 hcontains.2

/-- A segment without width is refused if it sits within another, though it claims no column. -/
theorem not_attach_answers_shareColumn :
    ¬ ∀ (s : Source) (segments : List Segment), (∀ segment ∈ segments, s.Holds segment.span) →
      ((∃ n first second, s.attach segments = .error (.overlappingSegments n first second)) ↔
        ∃ n text, s.line? n = some text ∧
          ∃ u v, [u, v].Sublist segments ∧ ShareColumn u v n text.length) := by
  intro h
  let s : Source := .ofLines ["abcdef".toList] none
  let comment : Segment := ⟨.onLine 1 1 4, .comment, []⟩
  let missing : Segment := ⟨.empty ⟨1, 2⟩, .literalNullImplicit, []⟩
  have hposition (column : Nat) (h : 1 ≤ column ∧ column ≤ 7) : s.HasPosition ⟨1, column⟩ :=
    ⟨"abcdef".toList, rfl, h⟩
  have hheld : ∀ segment ∈ [comment, missing], s.Holds segment.span := by
    simp only [List.forall_mem_cons]
    exact ⟨⟨by decide, hposition 1 (by decide), hposition 4 (by decide)⟩,
      ⟨by decide, hposition 2 (by decide), hposition 2 (by decide)⟩, List.forall_mem_nil _⟩
  have hparts : partsOn [comment, missing] 1 "abcdef".toList =
      [⟨1, 4, .comment⟩, ⟨2, 2, .literalNullImplicit⟩] := partsOn_of_perm (by decide) (by decide)
  have hsome : clashIn? 1 (s.partTable [comment, missing]) =
      some (.overlappingSegments 1 (1, 4) (2, 2)) := by
    change clashIn? 1 [partsOn [comment, missing] 1 "abcdef".toList] = _
    rw [hparts]
    rfl
  obtain ⟨n, text, -, u, v, hsublist, hshare⟩ :=
    (h s [comment, missing] hheld).1 ⟨_, _, _, attach_eq_error_iff.2 hsome⟩
  have hpair := hsublist.eq_of_length rfl
  rw [List.cons.injEq, List.cons.injEq] at hpair
  obtain ⟨rfl, rfl, -⟩ := hpair
  exact not_shareColumn_empty rfl hshare

end Clash

end Source

end YamlListing

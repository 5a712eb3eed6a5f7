import YamlListing.Diff.View
import YamlListing.Proofs.Source.Parts
import YamlListing.Proofs.Span.Bounds

set_option autoImplicit false

/-! # What every source keeps to

A source has one entry of segments for each line. On a line the segments are sorted and none reaches
into another, and the overlays touch only lines that exist (`Source.IsWellFormed`). There is one
lemma for each way to make a source or to change one, the comparison of two included, so this is so
of every source that can be reached (`IsReachable.isWellFormed`). Printing relies on it without
looking. -/

namespace YamlListing

namespace LineSegment

/-- Whether the segments of a line come in order and no column belongs to two of them. -/
structure AreOrdered (segments : List LineSegment) : Prop where
  sorted : segments.Pairwise fun a b => a.start < b.start ∨ a.start = b.start ∧ a.stop ≤ b.stop
  apart : ∀ column, segments.countP (·.covers column) ≤ 1

theorem areOrdered_nil : AreOrdered [] := ⟨.nil, fun _ => Nat.zero_le 1⟩

end LineSegment

namespace Source

open LineSegment (AreOrdered areOrdered_nil)

/-- Whether a source says the same of its lines everywhere. -/
structure IsWellFormed (s : Source) : Prop where
  /-- There is an entry of segments for each line and no other. -/
  length_segments : s.segments.length = s.lines.length
  ordered : ∀ segments ∈ s.segments, AreOrdered segments
  within : ∀ o ∈ s.overlays, o.span.IsWithin 1 s.lineCount
  unclassified : s.classified = false → ∀ segments ∈ s.segments, segments = []

section IsWellFormed

variable {s t : Source}

/-! ## Making sources -/

theorem ofLines_isWellFormed (lines : List Text) (name : Option String) :
    (ofLines lines name).IsWellFormed where
  length_segments := List.length_map _
  ordered := by
    intro segments hsegments
    obtain ⟨_, -, rfl⟩ := List.mem_map.1 hsegments
    exact areOrdered_nil
  within _ ho := nomatch ho
  unclassified _ segments hsegments := by
    obtain ⟨_, -, rfl⟩ := List.mem_map.1 hsegments
    rfl

theorem ofText_isWellFormed (t : Text) (name : Option String) : (ofText t name).IsWellFormed :=
  -- How the text ends plays no part.
  have h := ofLines_isWellFormed (ofText t name).lines name
  ⟨h.length_segments, h.ordered, h.within, h.unclassified⟩

/-! ## Segments -/

/-- The segments that are there after attaching are in order, whatever was to be attached. -/
theorem areOrdered_of_clashIn? {table : List (List LineSegment)} {n : Nat}
    (h : clashIn? n table = none) (hsorted : ∀ parts ∈ table, ∃ given, sortSegments given = parts) :
    ∀ parts ∈ table, AreOrdered parts := by
  intro parts hparts
  obtain ⟨given, rfl⟩ := hsorted parts hparts
  refine ⟨sortSegments_sorted given, countP_covers_le_one ?_⟩
  exact pairwise_of_firstClash?_eq_none (sortSegments_pairwise given)
    (firstClash?_of_clashIn? h hparts)

theorem IsWellFormed.attach {segments : List Yaml.Segment} (h : s.IsWellFormed)
    (hattach : s.attach segments = .ok t) : t.IsWellFormed := by
  obtain ⟨hclash, rfl⟩ := attach_eq_ok_iff.1 hattach
  refine ⟨List.length_mapIdx, areOrdered_of_clashIn? hclash ?_, h.within, nofun⟩
  intro parts hparts
  obtain ⟨i, hi, rfl⟩ := List.mem_mapIdx.1 hparts
  exact ⟨_, rfl⟩

/-! ## Overlays -/

theorem bounds_eq (s : Source) : s.bounds = ⟨.lineStart 1, .lineStart (s.lineCount + 1)⟩ := by
  rw [bounds, Span.between, if_pos]
  · rfl
  · simp only [Position.le_def, Position.first, Position.lineStart]
    omega

theorem IsWellFormed.addOverlay (h : s.IsWellFormed) (category : Category) {span : Span}
    (hspan : span.IsValid) : (s.addOverlay category span).IsWellFormed := by
  rw [Source.addOverlay]
  split
  · exact h
  · next clip hclip =>
    rw [bounds_eq] at hclip
    refine ⟨h.length_segments, h.ordered, ?_, h.unclassified⟩
    intro o ho
    rcases List.mem_append.1 ho with ho | ho
    · exact h.within o ho
    · obtain rfl := List.mem_singleton.1 ho
      exact Span.clipTo_isWithin hspan hclip

theorem IsWellFormed.addOverlays (h : s.IsWellFormed) (category : Category) {spans : List Span}
    (hspans : ∀ span ∈ spans, span.IsValid) : (s.addOverlays category spans).IsWellFormed := by
  rw [Source.addOverlays]
  induction spans generalizing s with
  | nil => exact h
  | cons span spans ih =>
    obtain ⟨hspan, hspans⟩ := List.forall_mem_cons.1 hspans
    exact ih (h.addOverlay category hspan) hspans

/-! ## Slices -/

theorem IsWellFormed.slice (h : s.IsWellFormed) (hcount : s.lineCount < Span.maxLine)
    (first last : Nat) : (s.slice first last).IsWellFormed := by
  rw [Source.slice]
  split
  · exact ofLines_isWellFormed [] s.name
  · next hlines =>
    have hmem {segments : List LineSegment} {k n : Nat}
        (hsegments : segments ∈ (s.segments.drop k).take n) : segments ∈ s.segments :=
      List.mem_of_mem_drop (List.mem_of_mem_take hsegments)
    refine ⟨?_, fun _ hsegments => h.ordered _ (hmem hsegments), ?_,
      fun hclassified _ hsegments => h.unclassified hclassified _ (hmem hsegments)⟩
    · simp only [List.length_take, List.length_drop, h.length_segments]
    · intro o ho
      obtain ⟨given, hgiven, hcut⟩ := List.mem_filterMap.1 ho
      obtain ⟨clip, hclip, rfl⟩ := Option.map_eq_some_iff.1 hcut
      have hfirst : max 1 first ≤ min last s.lineCount := by omega
      rw [Span.textLines, Nat.min_eq_left hfirst, Nat.max_eq_right hfirst] at hclip
      have hwithin := Span.clipTo_isWithin (h.within given hgiven).isValid hclip
      have hmoved := hwithin.shiftLines (k := max 1 first - 1) (by omega) (by omega)
      refine ⟨hmoved.isValid, Nat.le_trans ?_ hmoved.first_le, Nat.le_trans hmoved.le_last ?_⟩
      · omega
      · simp only [lineCount, List.length_take, List.length_drop] at hlines ⊢
        omega

/-! ## Comparisons -/

theorem areOrdered_segmentsAt (h : s.IsWellFormed) (n : Nat) : AreOrdered (s.segmentsAt n) := by
  rw [segmentsAt, atLine]
  split
  · exact areOrdered_nil
  · cases hentry : s.segments[n - 1]? with
    | none => exact areOrdered_nil
    | some segments => exact h.ordered segments (List.mem_of_getElem? hentry)

theorem IsWellFormed.pushLine (h : s.IsWellFormed) (text : Text) {segments : List LineSegment}
    (hsegments : AreOrdered segments) : (s.pushLine text segments).IsWellFormed where
  length_segments := by
    simp only [Source.pushLine, List.length_append, List.length_singleton, h.length_segments]
  ordered := by
    intro entry hentry
    rcases List.mem_append.1 hentry with hentry | hentry
    · exact h.ordered entry hentry
    · obtain rfl := List.mem_singleton.1 hentry
      exact hsegments
  within := by
    intro o ho
    have hwithin := h.within o ho
    refine ⟨hwithin.isValid, hwithin.first_le, Nat.le_trans hwithin.le_last ?_⟩
    simp only [lineCount, Source.pushLine, List.length_append]
    omega
  unclassified := by
    intro hclassified entry hentry
    simp only [Source.pushLine, Bool.or_eq_false_iff, Bool.not_eq_false'] at hclassified
    rcases List.mem_append.1 hentry with hentry | hentry
    · exact h.unclassified hclassified.1 entry hentry
    · obtain rfl := List.mem_singleton.1 hentry
      exact List.isEmpty_iff.1 hclassified.2

theorem textLine_isValid (n : Nat) : (Span.textLine n).IsValid :=
  ⟨Or.inl (Nat.lt_succ_self n), Nat.le_refl 1, Nat.le_refl 1⟩

theorem push_isWellFormed {v : DiffView} (h : v.source.IsWellFormed) {row : DiffRow}
    (hrow : AreOrdered row.segments) : (v.push row).source.IsWellFormed := by
  have hpush := h.pushLine row.text hrow
  rw [DiffView.push]
  cases row.info.kind.category? with
  | none => exact hpush
  | some category => exact hpush.addOverlay category (textLine_isValid _)

theorem ofRows_isWellFormed (origin tip : Source) {rows : List DiffRow} (highlights : List Span)
    (distance : Nat) (hrows : ∀ row ∈ rows, AreOrdered row.segments) :
    (DiffView.ofRows origin tip rows highlights distance).source.IsWellFormed := by
  have hfold {v : DiffView} (h : v.source.IsWellFormed) :
      (rows.foldl DiffView.push v).source.IsWellFormed := by
    induction rows generalizing v with
    | nil => exact h
    | cons row rows ih =>
      obtain ⟨hrow, hrows⟩ := List.forall_mem_cons.1 hrows
      exact ih hrows (push_isWellFormed h hrow)
  exact hfold (ofLines_isWellFormed [] _)

/-- The lines of a comparison have the segments of the revisions. -/
theorem areOrdered_ofEdit (h : s.IsWellFormed) (h' : t.IsWellFormed) (e : Edit) :
    AreOrdered (DiffRow.ofEdit s t e).segments := by
  cases e with
  | keep o _ => exact areOrdered_segmentsAt h o
  | delete o => exact areOrdered_segmentsAt h o
  | insert n => exact areOrdered_segmentsAt h' n

theorem areOrdered_partRows (h : s.IsWellFormed) (h' : t.IsWellFormed) (parts : List (List Edit)) :
    ∀ row ∈ DiffView.partRows s t parts, AreOrdered row.segments := by
  have hpart {edits : List Edit} {row : DiffRow}
      (hrow : row ∈ edits.map (DiffRow.ofEdit s t)) : AreOrdered row.segments := by
    obtain ⟨e, -, rfl⟩ := List.mem_map.1 hrow
    exact areOrdered_ofEdit h h' e
  intro row hrow
  induction parts with
  | nil => cases hrow
  | cons part rest ih =>
    cases rest with
    | nil => exact hpart hrow
    | cons next rest =>
      rw [DiffView.partRows] at hrow
      rcases List.mem_append.1 hrow with hrow | hrow
      · exact hpart hrow
      · rcases List.mem_cons.1 hrow with rfl | hrow
        · exact areOrdered_nil
        · exact ih hrow

theorem full_isWellFormed (h : s.IsWellFormed) (h' : t.IsWellFormed) :
    (DiffView.full s t).source.IsWellFormed := by
  refine ofRows_isWellFormed s t [] _ ?_
  intro row hrow
  obtain ⟨e, -, rfl⟩ := List.mem_map.1 hrow
  exact areOrdered_ofEdit h h' e

theorem summary_isWellFormed (h : s.IsWellFormed) (h' : t.IsWellFormed) (context : Nat) :
    (DiffView.summary s t context).source.IsWellFormed :=
  ofRows_isWellFormed s t _ _ (areOrdered_partRows h h' _)

end IsWellFormed

/-! ## Whatever is done with sources -/

/-- What can be done with a source. -/
inductive Change where
  | classify
  | attach (segments : List Yaml.Segment)
  | addOverlay (category : Category) (span : Span)
  | addOverlays (category : Category) (spans : List Span)
  | slice (first last : Nat)

namespace Change

/-- A source after a change. Segments that cannot be attached leave it as it was. -/
def apply : Change → Source → Source
  | classify, s => s.classify.toOption.getD s
  | attach segments, s => (s.attach segments).toOption.getD s
  | addOverlay category span, s => s.addOverlay category span
  | addOverlays category spans, s => s.addOverlays category spans
  | slice first last, s => s.slice first last

/-- The changes with valid spans. A source that is sliced has fewer lines than the greatest line
number, since the line after its last one has a number too. -/
def IsAllowed (s : Source) : Change → Prop
  | classify | attach _ => True
  | addOverlay _ span => span.IsValid
  | addOverlays _ spans => ∀ span ∈ spans, span.IsValid
  | slice _ _ => s.lineCount < Span.maxLine

end Change

/-- The sources that can be made from texts and lines. -/
inductive IsReachable : Source → Prop
  | ofText (t : Text) (name : Option String) : IsReachable (.ofText t name)
  | ofLines (lines : List Text) (name : Option String) : IsReachable (.ofLines lines name)
  | change {s : Source} (h : IsReachable s) (c : Change) (hc : c.IsAllowed s) :
    IsReachable (c.apply s)
  | full {s t : Source} (h : IsReachable s) (h' : IsReachable t) :
    IsReachable (DiffView.full s t).source
  | summary {s t : Source} (h : IsReachable s) (h' : IsReachable t) (context : Nat) :
    IsReachable (DiffView.summary s t context).source

section IsReachable

variable {s : Source}

theorem IsWellFormed.ofExcept {result : Except SourceError Source} (h : s.IsWellFormed)
    (hresult : ∀ t, result = .ok t → t.IsWellFormed) :
    (result.toOption.getD s).IsWellFormed := by
  cases result with
  | error _ => exact h
  | ok t => exact hresult t rfl

/-- What a change keeps. -/
theorem IsWellFormed.apply (h : s.IsWellFormed) {c : Change} (hc : c.IsAllowed s) :
    (c.apply s).IsWellFormed := by
  cases c with
  | classify => exact h.ofExcept fun t ht => h.attach ht
  | attach segments => exact h.ofExcept fun t ht => h.attach ht
  | addOverlay category span => exact h.addOverlay category hc
  | addOverlays category spans => exact h.addOverlays category hc
  | slice first last => exact h.slice hc first last

/-- Every source that can be made is well-formed. -/
theorem IsReachable.isWellFormed (h : s.IsReachable) : s.IsWellFormed := by
  induction h with
  | ofText t name => exact ofText_isWellFormed t name
  | ofLines lines name => exact ofLines_isWellFormed lines name
  | change _ c hc ih => exact ih.apply hc
  | full _ _ ih ih' => exact full_isWellFormed ih ih'
  | summary _ _ context ih ih' => exact summary_isWellFormed ih ih' context

/-- A slice of two lines that is classified and given segments that clash, which are refused, and a
span that reaches beyond it; and how it differs from a text of one line. -/
theorem isReachable_isWellFormed_of_changes :
    let sliced := (Change.slice 2 3).apply (.ofText ("first\na: b\n- c\nlast\n").toList none)
    let clashing := [⟨.onLine 1 1 3, .nameTag, []⟩, ⟨.onLine 1 2 4, .literalString, []⟩]
    let classified := (Change.attach clashing).apply (Change.classify.apply sliced)
    let marked := (Change.addOverlays .highlight [⟨⟨1, 2⟩, ⟨9, 1⟩⟩]).apply classified
    let compared := (DiffView.summary marked (.ofText ("a: b\n").toList none) 0).source
    sliced.lineCount = 2 ∧ marked.IsReachable ∧ marked.IsWellFormed ∧
      compared.IsReachable ∧ compared.IsWellFormed := by
  intro sliced clashing classified marked compared
  have hsliced : sliced.IsReachable :=
    .change (.ofText _ none) (.slice 2 3) (by rw [Change.IsAllowed]; decide)
  have hclassified : classified.IsReachable :=
    .change (.change hsliced .classify trivial) (.attach clashing) trivial
  have hspan : Span.IsValid ⟨⟨1, 2⟩, ⟨9, 1⟩⟩ := ⟨by decide, by decide, by decide⟩
  have hmarked : marked.IsReachable :=
    .change hclassified (.addOverlays .highlight _) (List.forall_mem_singleton.2 hspan)
  have hcompared : compared.IsReachable := .summary hmarked (.ofText _ none) 0
  exact ⟨by decide, hmarked, hmarked.isWellFormed, hcompared, hcompared.isWellFormed⟩

end IsReachable

end Source

end YamlListing

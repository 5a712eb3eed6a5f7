import YamlListing.Proofs.Listing.Slice
import YamlListing.Proofs.Source.WellFormed
import YamlListing.Proofs.Span.Order

set_option autoImplicit false

/-! # Lines of a slice

What is on a line of a slice should be what was on the line in the whole source, with lower line
numbers. For the overlays there are two ways to it: they are clipped to the lines of the slice,
moved and then clipped to the line, or clipped to the line at once. Both ways give the same but for
two kinds of overlays on the first line of a slice (`clipInSlice_eq_map`). One that stops at the
start of that line does not touch it, but is cut down to an empty span there, which does. And one of
nothing but column 0 touches it, but lies outside of the slice. Main statement: a line of a slice is
the same as the line that it was, exactly if none of these overlays is there
(`slice_overlaysOn_iff`). -/

namespace YamlListing

/-! ## Lower line numbers -/

namespace Position

variable {p q : Position}

/-- A position with its line number lowered. -/
def lower (k : Nat) (p : Position) : Position := ⟨p.line - k, p.column⟩

theorem max_lower {k : Nat} (hp : k ≤ p.line) (hq : k ≤ q.line) :
    max (p.lower k) (q.lower k) = (max p q).lower k := by
  rw [max_def, max_def, apply_ite (lower k)]
  refine if_congr ?_ rfl rfl
  simp only [le_def, lower]
  omega

theorem min_lower {k : Nat} (hp : k ≤ p.line) (hq : k ≤ q.line) :
    min (p.lower k) (q.lower k) = (min p q).lower k := by
  rw [min_def, min_def, apply_ite (lower k)]
  refine if_congr ?_ rfl rfl
  simp only [le_def, lower]
  omega

end Position

/-- A span with its line numbers lowered. -/
def Span.lower (k : Nat) (s : Span) : Span := ⟨s.start.lower k, s.stop.lower k⟩

/-- An overlay with its line numbers lowered. -/
def Overlay.lower (k : Nat) (o : Overlay) : Overlay := ⟨o.category, o.span.lower k⟩

namespace Span

variable {s t clip bounds : Span} {first last n k : Nat}

/-- Lowering is moving up by lines that are there. -/
theorem shiftLines_eq_lower (hstart : k < s.start.line) (hstop : k < s.stop.line)
    (hmax : s.start.line ≤ maxLine) (hmax' : s.stop.line ≤ maxLine) :
    s.shiftLines (-(k : Int)) = s.lower k := by
  rw [shiftLines, shiftLine_neg hstart hmax, shiftLine_neg hstop hmax', lower, Position.lower,
    Position.lower]

theorem lastLine_lower (hstart : k ≤ s.start.line) : (s.lower k).lastLine = s.lastLine - k := by
  rw [lastLine, lastLine, apply_ite (· - k)]
  refine if_congr (and_congr_right' ?_) (Nat.sub_right_comm ..) rfl
  simp only [lower, Position.lower]
  omega

/-- The part on a line is lowered together with the line. -/
theorem clipToTextLine_lower (hstart : k ≤ s.start.line) (hstop : k ≤ s.stop.line) (hn : k < n) :
    (s.lower k).clipToTextLine (n - k) = (s.clipToTextLine n).map (lower k) := by
  have hline : Position.lineStart (n - k) = (Position.lineStart n).lower k := rfl
  have hnext : Position.lineStart (n - k + 1) = (Position.lineStart (n + 1)).lower k := by
    rw [← Nat.sub_add_comm (Nat.le_of_lt hn)]
    rfl
  have hnextLine : k ≤ (Position.lineStart (n + 1)).line := Nat.le_succ_of_le (Nat.le_of_lt hn)
  have hfirst : (s.lower k).firstLine = s.start.line - k := rfl
  rw [clipToTextLine, clipToTextLine, clipBefore, clipBefore, lastLine_lower hstart, hfirst,
    firstLine]
  by_cases hout : n < s.start.line ∨ s.lastLine < n
  · rw [if_pos (by omega), if_pos hout, Option.map_none]
  · rw [if_neg (by omega), if_neg hout, Option.map_some, hline, hnext, lower, lower,
      Position.max_lower hstart (Nat.le_of_lt hn), Position.min_lower hstop hnextLine]

/-! ## Clipping to some lines and then to one -/

/-- Whether a span stops at the start of a line and begins on an earlier one. -/
def StopsAt (s : Span) (n : Nat) : Prop := s.start.line < n ∧ s.stop = .lineStart n

theorem textLines_of_le (h : first ≤ last) :
    textLines first last = ⟨.lineStart first, .lineStart (last + 1)⟩ := by
  rw [textLines, Nat.min_eq_left h, Nat.max_eq_right h]

/-- A span in order has a part inside bounds unless it begins after them or stops before. -/
theorem clipTo_eq_some_iff (hs : s.start ≤ s.stop) (hbounds : bounds.start < bounds.stop) :
    s.clipTo bounds = some clip ↔ s.start < bounds.stop ∧ bounds.start ≤ s.stop ∧
      clip = ⟨max s.start bounds.start, min s.stop bounds.stop⟩ := by
  have horder : max s.start bounds.start ≤ min s.stop bounds.stop ↔
      s.start ≤ bounds.stop ∧ bounds.start ≤ s.stop := by
    rw [Position.max_le, Position.le_min, Position.le_min, and_iff_right hs,
      and_iff_left (Position.le_of_lt hbounds)]
  constructor
  · intro h
    have hlt := start_lt_of_clipTo h
    obtain ⟨-, hle, -⟩ := clipTo_le h
    simp only [clipTo] at h
    split at h
    · obtain rfl := Option.some.inj h
      rw [Position.max_lt] at hlt
      exact ⟨hlt.1, (horder.1 hle).2, rfl⟩
    · cases h
  · rintro ⟨hlow, hhigh, rfl⟩
    simp only [clipTo]
    have hcontains : bounds.contains (max s.start bounds.start) = true :=
      contains_iff.2 ⟨Position.le_max_right _ _, Position.max_lt.2 ⟨hlow, hbounds⟩⟩
    have hle := horder.2 ⟨Position.le_of_lt hlow, hhigh⟩
    exact if_pos ((Position.lt_or_eq_of_le hle).imp_right (⟨·, hcontains⟩))

theorem lineStart_lt (h : first ≤ last) : Position.lineStart first < .lineStart (last + 1) :=
  Or.inl (Nat.lt_succ_of_le h)

/-- The part on a line of the part on some lines is the part on it, unless the line is the first of
them and the span stops at its start. -/
theorem clipToTextLine_of_clipTo (hs : s.start ≤ s.stop) (hfirst : first ≤ n) (hlast : n ≤ last)
    (h : s.clipTo (.textLines first last) = some clip) (hstops : n = first → ¬ s.StopsAt first) :
    clip.clipToTextLine n = s.clipToTextLine n := by
  have hle := Nat.le_trans hfirst hlast
  have horder := (clipTo_le h).2.1
  rw [textLines_of_le hle, clipTo_eq_some_iff hs (lineStart_lt hle)] at h
  obtain ⟨-, hhigh, rfl⟩ := h
  have hstart : Position.lineStart first ≤ .lineStart n := by
    simp only [Position.le_def, Position.lineStart]
    omega
  have hnext : Position.lineStart (n + 1) ≤ .lineStart (last + 1) := by
    simp only [Position.le_def, Position.lineStart]
    omega
  have hline : (Position.lineStart first).line = first := rfl
  refine Option.ext fun part => ?_
  rw [clipToTextLine_eq_some_iff, clipToTextLine_eq_some_iff, le_lastLine_iff horder,
    le_lastLine_iff hs, Position.max_max_of_le hstart, Position.min_min_of_le hnext, Position.lt_min,
    and_iff_left (lineStart_lt hlast), ← and_assoc, ← and_assoc, firstLine, firstLine,
    Position.line_max, hline]
  refine and_congr_left' ⟨?_, ?_⟩
  · rintro ⟨hlow, hreach⟩
    refine ⟨by omega, or_iff_not_imp_left.2 fun hbefore => hreach.elim (fun hmax => ?_) id⟩
    obtain rfl : n = first := by omega
    refine Position.not_le.1 fun hge => hstops rfl ⟨by omega, ?_⟩
    exact Position.eq_of_le_of_le hge hhigh
  · rintro ⟨hlow, hreach⟩
    exact ⟨by omega, hreach.imp_left (by omega)⟩

/-- A span without a part on some lines has none on one of them, unless it is empty at column 0 of
the first. -/
theorem clipToTextLine_of_clipTo_eq_none (hs : s.start ≤ s.stop) (hfirst : first ≤ n)
    (hlast : n ≤ last) (h : s.clipTo (.textLines first last) = none)
    (hzero : n = first → s ≠ .empty ⟨first, 0⟩) :
    s.clipToTextLine n = none := by
  have hle := Nat.le_trans hfirst hlast
  refine Option.eq_none_iff_forall_ne_some.2 fun part hpart => ?_
  obtain ⟨hlow, hreach, -⟩ := clipToTextLine_eq_some_iff.1 hpart
  rw [firstLine] at hlow
  rw [le_lastLine_iff hs, firstLine] at hreach
  have hbegins : s.start < .lineStart (last + 1) :=
    Or.inl (Nat.lt_succ_of_le (Nat.le_trans hlow hlast))
  by_cases hstops : .lineStart first ≤ s.stop
  · rw [textLines_of_le hle] at h
    have hsome : s.clipTo ⟨.lineStart first, .lineStart (last + 1)⟩ = some _ :=
      (clipTo_eq_some_iff hs (lineStart_lt hle)).2 ⟨hbegins, hstops, rfl⟩
    cases h.symm.trans hsome
  · -- The span touches the line and does not reach it, so it is nothing but column 0.
    obtain ⟨⟨line, column⟩, ⟨line', column'⟩⟩ := s
    simp only [Position.le_def, Position.lt_def, Position.lineStart, empty, ne_eq, mk.injEq,
      Position.mk.injEq] at *
    omega

theorem clipToTextLine_empty (p : Position) :
    (empty p).clipToTextLine p.line = some ⟨max p (.lineStart p.line), p⟩ := by
  have horder : (empty p).start ≤ (empty p).stop := Position.le_refl p
  have hnext : p ≤ .lineStart (p.line + 1) := Or.inl (Nat.lt_succ_self p.line)
  rw [clipToTextLine_eq_some_iff, empty, Position.min_of_le hnext]
  exact ⟨Nat.le_refl p.line, firstLine_le_lastLine horder, rfl⟩

/-- The part of a span on a line by way of its part on the lines from `first` to `last`, with the
numbers that these lines have in a slice. -/
def clipInSlice (s : Span) (first last n : Nat) : Option Span :=
  ((s.clipTo (.textLines first last)).map (·.shiftLines (-((first - 1 : Nat) : Int)))).bind
    (·.clipToTextLine (n - (first - 1)))

section clipInSlice

variable (hone : 1 ≤ first) (hmax : last < maxLine)
include hone hmax

/-- Moving a part makes no difference but in the numbers. -/
theorem clipInSlice_eq (s : Span) (hfirst : first ≤ n) (hlast : n ≤ last) :
    s.clipInSlice first last n =
      ((s.clipTo (.textLines first last)).bind (·.clipToTextLine n)).map (lower (first - 1)) := by
  rw [clipInSlice]
  cases hclip : s.clipTo (.textLines first last) with
  | none => rfl
  | some clip =>
    obtain ⟨hlow, hle, hhigh⟩ := clipTo_le hclip
    rw [textLines_of_le (Nat.le_trans hfirst hlast)] at hlow hhigh
    simp only [Position.le_def, Position.lineStart] at hlow hle hhigh
    rw [Option.map_some, Option.bind_some, Option.bind_some, shiftLines_eq_lower (by omega)
      (by omega) (by omega) (by omega), clipToTextLine_lower (by omega) (by omega) (by omega)]

/-- Clipping to the lines of a slice first makes no difference but for two kinds of spans. -/
theorem clipInSlice_eq_map (hs : s.start ≤ s.stop) (hfirst : first ≤ n) (hlast : n ≤ last)
    (hstops : n = first → ¬ s.StopsAt first) (hzero : n = first → s ≠ .empty ⟨first, 0⟩) :
    s.clipInSlice first last n = (s.clipToTextLine n).map (lower (first - 1)) := by
  rw [clipInSlice_eq hone hmax s hfirst hlast]
  cases hclip : s.clipTo (.textLines first last) with
  | none =>
    rw [clipToTextLine_of_clipTo_eq_none hs hfirst hlast hclip hzero]
    rfl
  | some clip => rw [Option.bind_some, clipToTextLine_of_clipTo hs hfirst hlast hclip hstops]

variable (hle : first ≤ last)
include hle

/-- A span that stops at the start of a slice is cut down to an empty one there. -/
theorem clipInSlice_of_stopsAt (h : s.StopsAt first) :
    s.clipInSlice first last first = some (.empty .first) := by
  obtain ⟨hbefore, hstop⟩ := h
  have hs : s.start ≤ s.stop := Or.inl (by rw [hstop]; exact hbefore)
  have hstart : s.start ≤ .lineStart first := Or.inl hbefore
  have hclip : s.clipTo (.textLines first last) = some (.empty (.lineStart first)) := by
    rw [textLines_of_le hle, clipTo_eq_some_iff hs (lineStart_lt hle)]
    refine ⟨Position.lt_of_le_of_lt hstart (lineStart_lt hle), ?_, ?_⟩
    · rw [hstop]
      exact Position.le_refl _
    · simp only [hstop, Position.max_of_le hstart,
        Position.min_of_le (Position.le_of_lt (lineStart_lt hle)), empty]
  have hline :
      (empty (.lineStart first)).clipToTextLine first = some (.empty (.lineStart first)) := by
    have hself : max (.lineStart first) (.lineStart first) = Position.lineStart first :=
      Position.max_of_le (Position.le_refl _)
    exact (clipToTextLine_empty (.lineStart first)).trans
      (congrArg (fun p => some (Span.mk p (.lineStart first))) hself)
  rw [clipInSlice_eq hone hmax s (Nat.le_refl first) hle, hclip, Option.bind_some, hline,
    Option.map_some]
  simp only [lower, Position.lower, empty, Position.lineStart, Position.first,
    Nat.sub_sub_self hone]

/-- What there is of a span on the first line of a slice is in order. -/
theorem start_le_stop_of_clipInSlice (h : s.clipInSlice first last first = some t) :
    t.start ≤ t.stop := by
  rw [clipInSlice_eq hone hmax s (Nat.le_refl first) hle] at h
  obtain ⟨part, hpart, rfl⟩ := Option.map_eq_some_iff.1 h
  obtain ⟨clip, hclip, hpart⟩ := Option.bind_eq_some_iff.1 hpart
  obtain ⟨hlow, horder, -⟩ := clipTo_le hclip
  have hnonzero : clip ≠ .empty ⟨first, 0⟩ := by
    rintro rfl
    rw [textLines_of_le hle] at hlow
    simp only [Position.le_def, Position.lineStart, empty] at hlow
    omega
  have hpartOrder := (start_le_stop_of_clipToTextLine_iff horder hpart).2 hnonzero
  obtain ⟨-, -, rfl⟩ := clipToTextLine_eq_some_iff.1 hpart
  have hline : first ≤ (max clip.start (Position.lineStart first)).line := by
    rw [Position.line_max]
    exact Nat.le_max_right _ _
  simp only [lower, Position.lower, Position.le_def] at hpartOrder ⊢
  omega

end clipInSlice

/-- A span that stops at the start of a line does not touch it. -/
theorem StopsAt.clipToTextLine_eq_none (h : s.StopsAt n) : s.clipToTextLine n = none := by
  obtain ⟨hbefore, hstop⟩ := h
  refine Span.clipToTextLine_eq_none (Or.inr ?_)
  rw [lastLine, hstop, if_pos ⟨Nat.le_refl 1, hbefore⟩]
  exact Nat.sub_one_lt_of_lt hbefore

end Span

namespace Source

/-! ## The overlays on a line -/

section filterMap

variable {α β : Type} {f g : α → Option β} {l : List α}

theorem sublist_filterMap (h : ∀ a ∈ l, g a = none ∨ g a = f a) :
    (l.filterMap g).Sublist (l.filterMap f) := by
  induction l with
  | nil => exact .slnil
  | cons a l ih =>
    obtain ⟨ha, hl⟩ := List.forall_mem_cons.1 h
    rcases ha with hnone | hsame
    · rw [List.filterMap_cons_none hnone]
      refine (ih hl).trans ?_
      exact List.Sublist.filterMap f (List.sublist_cons_self a l)
    · rw [List.filterMap_cons, List.filterMap_cons, hsame]
      cases f a with
      | none => exact ih hl
      | some b => exact (ih hl).cons_cons b

/-- If what is kept is kept as it is, two lists are the same only if the same is kept. -/
theorem filterMap_eq_iff (h : ∀ a ∈ l, g a = none ∨ g a = f a) :
    l.filterMap f = l.filterMap g ↔ ∀ a ∈ l, f a = g a := by
  refine ⟨fun heq => ?_, List.filterMap_congr⟩
  induction l with
  | nil => exact List.forall_mem_nil _
  | cons a l ih =>
    obtain ⟨ha, hl⟩ := List.forall_mem_cons.1 h
    rw [List.forall_mem_cons]
    rcases ha with hnone | hsame
    · cases hkept : f a with
      | none =>
        rw [List.filterMap_cons_none hnone, List.filterMap_cons_none hkept] at heq
        exact ⟨hnone.symm, ih hl heq⟩
      | some b =>
        -- The list would be shorter than a part of it.
        have hle := (sublist_filterMap hl).length_le
        rw [List.filterMap_cons_none hnone, List.filterMap_cons_some hkept] at heq
        rw [← heq, List.length_cons] at hle
        omega
    · rw [List.filterMap_cons, List.filterMap_cons, hsame] at heq
      refine ⟨hsame.symm, ih hl ?_⟩
      cases hkept : f a with
      | none => rwa [hkept] at heq
      | some b =>
        rw [hkept] at heq
        exact (List.cons.inj heq).2

end filterMap

variable {s : Source} {first last n : Nat}

/-- Whether the overlays of a source have their ends in order. -/
def OverlaysInOrder (s : Source) : Prop := ∀ o ∈ s.overlays, o.span.start ≤ o.span.stop

theorem ofLines_overlaysInOrder (lines : List Text) (name : Option String) :
    (ofLines lines name).OverlaysInOrder := List.forall_mem_nil _

/-- Whatever span an overlay is laid over, it is in order. -/
theorem OverlaysInOrder.addOverlay (h : s.OverlaysInOrder) (category : Category) (span : Span) :
    (s.addOverlay category span).OverlaysInOrder := by
  rw [Source.addOverlay]
  split
  · exact h
  · next clip hclip =>
    refine List.forall_mem_append.2 ⟨h, List.forall_mem_singleton.2 ?_⟩
    exact (Span.clipTo_le hclip).2.1

theorem IsReachable.overlaysInOrder (h : s.IsReachable) : s.OverlaysInOrder :=
  fun o ho => (h.isWellFormed.within o ho).isValid.start_le_stop

theorem overlaysOn_slice (hone : 1 ≤ first) (hle : first ≤ last) (hlast : last ≤ s.lineCount) :
    (s.slice first last).overlaysOn (n - (first - 1)) = s.overlays.filterMap fun o =>
      (o.span.clipInSlice first last n).map (Overlay.mk o.category) := by
  rw [slice_eq s (by omega), Nat.max_eq_right hone, Nat.min_eq_left hlast, overlaysOn,
    List.filterMap_filterMap]
  refine List.filterMap_congr fun o _ => ?_
  rw [Span.clipInSlice]
  cases o.span.clipTo (.textLines first last) <;> rfl

theorem map_lower_overlaysOn (k : Nat) : (s.overlaysOn n).map (Overlay.lower k) =
    s.overlays.filterMap fun o =>
      ((o.span.clipToTextLine n).map (Span.lower k)).map (Overlay.mk o.category) := by
  rw [overlaysOn, List.map_filterMap]
  refine List.filterMap_congr fun o _ => ?_
  rw [Option.map_map, Option.map_map]
  rfl

section exceptions

variable (hcount : s.lineCount < Span.maxLine) (horder : s.OverlaysInOrder) (hone : 1 ≤ first)
  (hlines : last ≤ s.lineCount)
include hcount horder hone hlines

theorem overlaysOn_slice_eq (hfirst : first ≤ n) (hlast : n ≤ last)
    (hnone : n = first → ∀ o ∈ s.overlays,
      ¬ o.span.StopsAt first ∧ o.span ≠ .empty ⟨first, 0⟩) :
    (s.slice first last).overlaysOn (n - (first - 1)) =
      (s.overlaysOn n).map (Overlay.lower (first - 1)) := by
  rw [overlaysOn_slice hone (Nat.le_trans hfirst hlast) hlines, map_lower_overlaysOn]
  refine List.filterMap_congr fun o ho => ?_
  rw [Span.clipInSlice_eq_map hone (by omega) (horder o ho) hfirst hlast
    (fun hn => (hnone hn o ho).1) (fun hn => (hnone hn o ho).2)]

theorem of_overlaysOn_slice_eq (hle : first ≤ last)
    (h : (s.slice first last).overlaysOn (first - (first - 1)) =
      (s.overlaysOn first).map (Overlay.lower (first - 1))) :
    ∀ o ∈ s.overlays, ¬ o.span.StopsAt first ∧ o.span ≠ .empty ⟨first, 0⟩ := by
  have hmax : last < Span.maxLine := by omega
  rw [overlaysOn_slice hone hle hlines] at h
  have hzero : ∀ o ∈ s.overlays, o.span ≠ .empty ⟨first, 0⟩ := by
    intro o ho hspan
    -- Its part is turned round, and no overlay has such a part in the slice.
    have hcolumn : (⟨first, 0⟩ : Position) ≤ .lineStart first := Or.inr ⟨rfl, Nat.zero_le 1⟩
    have hpart := Span.clipToTextLine_empty ⟨first, 0⟩
    rw [Position.max_of_le hcolumn, ← hspan] at hpart
    have hmem : ⟨o.category, ⟨.lineStart first, ⟨first, 0⟩⟩⟩ ∈ s.overlaysOn first :=
      List.mem_filterMap.2 ⟨o, ho, congrArg (·.map (Overlay.mk o.category)) hpart⟩
    have hlowered := List.mem_map_of_mem (f := Overlay.lower (first - 1)) hmem
    rw [← h] at hlowered
    obtain ⟨o', -, ho'⟩ := List.mem_filterMap.1 hlowered
    obtain ⟨part, hpart', heq⟩ := Option.map_eq_some_iff.1 ho'
    have hpartOrder := Span.start_le_stop_of_clipInSlice hone hmax hle hpart'
    rw [(Overlay.mk.inj heq).2] at hpartOrder
    simp only [Span.lower, Position.lower, Position.lineStart, Position.le_def] at hpartOrder
    omega
  rw [map_lower_overlaysOn] at h
  have hkept : ∀ o ∈ s.overlays,
      ((o.span.clipToTextLine first).map (Span.lower (first - 1))).map (Overlay.mk o.category) =
        none ∨
      ((o.span.clipToTextLine first).map (Span.lower (first - 1))).map (Overlay.mk o.category) =
        (o.span.clipInSlice first last first).map (Overlay.mk o.category) := by
    intro o ho
    by_cases hstops : o.span.StopsAt first
    · left
      rw [hstops.clipToTextLine_eq_none]
      rfl
    · right
      rw [Span.clipInSlice_eq_map hone hmax (horder o ho) (Nat.le_refl first) hle
        (fun _ => hstops) (fun _ => hzero o ho)]
  intro o ho
  refine ⟨fun hstops => ?_, hzero o ho⟩
  have hsame := (filterMap_eq_iff hkept).1 h o ho
  rw [hstops.clipToTextLine_eq_none, Span.clipInSlice_of_stopsAt hone hmax hle hstops] at hsame
  cases hsame

end exceptions

/-- A line of a slice has the text and the segments that it had, and it has its overlays, with lower
numbers, unless it is the first of the slice and an overlay stops at its start or is nothing but
column 0 of it. -/
theorem slice_overlaysOn_iff (s : Source) (hcount : s.lineCount < Span.maxLine)
    (horder : s.OverlaysInOrder) (hone : 1 ≤ first) (hfirst : first ≤ n) (hlast : n ≤ last)
    (hlines : last ≤ s.lineCount) :
    (s.slice first last).line? (n + 1 - first) = s.line? n ∧
    (s.slice first last).segmentsAt (n + 1 - first) = s.segmentsAt n ∧
    ((s.slice first last).overlaysOn (n + 1 - first) =
        (s.overlaysOn n).map (Overlay.lower (first - 1)) ↔
      (n = first → ∀ o ∈ s.overlays,
        ¬ o.span.StopsAt first ∧ o.span ≠ .empty ⟨first, 0⟩)) := by
  have hle := Nat.le_trans hfirst hlast
  have hnumber : n + 1 - first = n - (first - 1) := by omega
  have hback : n - (first - 1) + (first - 1) = n := by omega
  have hnone : max 1 first ≤ min last s.lineCount := by omega
  have hcut {α : Type} (entries : List α) :
      atLine ((entries.drop (first - 1)).take (last + 1 - first)) (n - (first - 1)) =
        atLine entries n := by
    rw [atLine_take_drop entries _ _ (by omega) (by omega), hback]
  rw [hnumber]
  refine ⟨?_, ?_, ?_⟩
  · rw [slice_eq s hnone, Nat.max_eq_right hone, Nat.min_eq_left hlines, line?, line?, hcut]
  · rw [slice_eq s hnone, Nat.max_eq_right hone, Nat.min_eq_left hlines, segmentsAt, segmentsAt,
      hcut]
  · refine ⟨?_, overlaysOn_slice_eq hcount horder hone hlines hfirst hlast⟩
    rintro h rfl
    exact of_overlaysOn_slice_eq hcount horder hone hlines hle h

/-- Of four lines the middle ones are cut out: an overlay reaches into them, one reaches out of
them, and one is empty. A further overlay over all of line 1 stops at the start of line 2. -/
theorem slice_overlaysOn_iff_fourLines :
    let lines : Source := .ofLines ["a".toList, "bb".toList, "cc".toList, "d".toList] none
    let s := ((lines.addOverlay .comment ⟨⟨1, 1⟩, ⟨3, 2⟩⟩).addOverlay .literal
      (.empty ⟨2, 2⟩)).addOverlay .name ⟨⟨3, 2⟩, ⟨9, 1⟩⟩
    let marked := s.addOverlay .generic (.textLine 1)
    s.OverlaysInOrder ∧ marked.OverlaysInOrder ∧
      (s.slice 2 3).overlaysOn 1 = (s.overlaysOn 2).map (Overlay.lower 1) ∧
      (s.slice 2 3).overlaysOn 2 = (s.overlaysOn 3).map (Overlay.lower 1) ∧
      (marked.slice 2 3).overlaysOn 1 ≠ (marked.overlaysOn 2).map (Overlay.lower 1) ∧
      (marked.slice 2 3).overlaysOn 2 = (marked.overlaysOn 3).map (Overlay.lower 1) := by
  intro lines s marked
  have hs : s.OverlaysInOrder :=
    (((ofLines_overlaysInOrder _ none).addOverlay _ _).addOverlay _ _).addOverlay _ _
  have hmarked : marked.OverlaysInOrder := hs.addOverlay _ _
  have hfine : ∀ o ∈ s.overlays, ¬ o.span.StopsAt 2 ∧ o.span ≠ .empty ⟨2, 0⟩ := by
    simp only [Span.StopsAt]
    decide
  have hstops : ∃ o ∈ marked.overlays, o.span.StopsAt 2 := by
    simp only [Span.StopsAt]
    decide
  obtain ⟨-, -, hfirst⟩ := slice_overlaysOn_iff s (n := 2) (by decide) hs (by decide)
    (Nat.le_refl 2) (Nat.le_succ 2) (by decide)
  obtain ⟨-, -, hsecond⟩ := slice_overlaysOn_iff s (n := 3) (by decide) hs (by decide)
    (Nat.le_succ 2) (Nat.le_refl 3) (by decide)
  obtain ⟨-, -, hmarkedFirst⟩ := slice_overlaysOn_iff marked (n := 2) (by decide) hmarked
    (by decide) (Nat.le_refl 2) (Nat.le_succ 2) (by decide)
  obtain ⟨-, -, hmarkedSecond⟩ := slice_overlaysOn_iff marked (n := 3) (by decide) hmarked
    (by decide) (Nat.le_succ 2) (Nat.le_refl 3) (by decide)
  refine ⟨hs, hmarked, hfirst.2 fun _ => hfine, hsecond.2 nofun, ?_, hmarkedSecond.2 nofun⟩
  intro hsame
  obtain ⟨o, ho, hstop⟩ := hstops
  exact (hmarkedFirst.1 hsame rfl o ho).1 hstop

/-- An overlay over all of line 1 does not touch line 2, and still line 2 has an overlay when it is
cut out. -/
theorem not_slice_overlaysOn :
    ¬ ∀ (s : Source) (first last n : Nat), s.IsReachable → s.lineCount < Span.maxLine →
      1 ≤ first → first ≤ n → n ≤ last → last ≤ s.lineCount →
      (s.slice first last).overlaysOn (n + 1 - first) =
        (s.overlaysOn n).map (Overlay.lower (first - 1)) := by
  intro h
  have hreachable := IsReachable.change (.ofText "a\nb\n".toList none)
    (.addOverlay .highlight (.textLine 1)) (textLine_isValid 1)
  exact absurd (h _ 2 2 2 hreachable (by decide) (by decide) (by decide) (by decide) (by decide))
    (by decide)

end Source

end YamlListing

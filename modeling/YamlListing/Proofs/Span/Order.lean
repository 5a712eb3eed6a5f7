import YamlListing.Proofs.Span.Bounds
import YamlListing.Proofs.Span.Merge

set_option autoImplicit false

/-! # Spans that are turned round

A span should start no later than it stops. Most operations see to that by themselves, since they
put the ends in order or take a maximum of starts and a minimum of stops that are. There are three
ways to get one that does not. Moving a span up stops at line 1 for each of its ends, so a span over
several lines can end up on a single one, where its columns need not be in order. The part on a line
of an empty span at column 0 is made to start at column 1. And what reaches to the end of the
greatest line stops at the start of line 0. Main statement (`Composes.start_le_stop_iff`): of all
spans that operations make of one another, each starts no later than it stops exactly if none of
them was made in one of these ways. -/

namespace YamlListing.Span

variable {s t : Span} {n : Nat} {delta : Int}

/-! ## Making spans -/

theorem new_eq_ok_iff {p q : Position} : new p q = .ok s ↔ p ≤ q ∧ s = ⟨p, q⟩ := by
  rw [new]
  split
  · next hle => rw [Except.ok.injEq, and_iff_right hle, eq_comm]
  · next hle => exact iff_of_false nofun fun h => hle h.1

theorem start_le_stop_between (p q : Position) : (between p q).start ≤ (between p q).stop := by
  rw [between]
  split
  · next hle => exact hle
  · next hle => exact Position.le_of_lt (Position.not_le.1 hle)

theorem start_le_stop_line_iff (n : Nat) : (line n).start ≤ (line n).stop ↔ n < maxLine := by
  by_cases h : n < maxLine
  · rw [line_of_lt h]
    exact iff_of_true (Or.inl (Nat.lt_succ_self n)) h
  · refine iff_of_false ?_ h
    rw [line, nextLine_of_le (Nat.not_lt.1 h)]
    simp only [Position.le_def, Position.lineStart, maxLine] at h ⊢
    omega

/-- The lines from line 0 to the greatest one come out as an empty span, which is in order. -/
theorem start_le_stop_lines_iff (m n : Nat) :
    (lines m n).start ≤ (lines m n).stop ↔ min m n = 0 ∨ max m n < maxLine := by
  by_cases h : max m n < maxLine
  · rw [lines_of_lt h]
    have hle : min m n < max m n + 1 := by omega
    exact iff_of_true (Or.inl hle) (Or.inr h)
  · rw [or_iff_left h, lines, nextLine_of_le (Nat.not_lt.1 h)]
    simp only [Position.le_def, Position.lineStart]
    omega

theorem start_le_stop_onLine (line a b : Nat) :
    (onLine line a b).start ≤ (onLine line a b).stop := by
  refine Or.inr ⟨rfl, ?_⟩
  simp only [onLine]
  omega

/-! ## Parts of spans and spans that are moved -/

/-- The part of a span on a line of a text is in order unless there is nothing of the span but
column 0. -/
theorem start_le_stop_of_clipToTextLine_iff (hs : s.start ≤ s.stop)
    (h : s.clipToTextLine n = some t) : t.start ≤ t.stop ↔ s ≠ .empty ⟨n, 0⟩ := by
  obtain ⟨hfirst, hlast, rfl⟩ := clipToTextLine_eq_some_iff.1 h
  obtain ⟨⟨line, column⟩, ⟨line', column'⟩⟩ := s
  rw [Position.max_le, Position.le_min, Position.le_min]
  simp only [Position.le_def, Position.lineStart, firstLine, lastLine, empty, ne_eq, mk.injEq,
    Position.mk.injEq] at *
  split at hlast <;> omega

/-- The part of a span on the greatest line stops before it starts. -/
theorem start_le_stop_of_clipToLine_iff (hs : s.start ≤ s.stop) (h : s.clipToLine n = some t) :
    t.start ≤ t.stop ↔ s ≠ .empty ⟨n, 0⟩ ∧ n < maxLine := by
  by_cases hn : n < maxLine
  · rw [clipToLine_of_lt s hn] at h
    rw [start_le_stop_of_clipToTextLine_iff hs h, and_iff_left hn]
  · obtain ⟨-, -, rfl⟩ := clipBefore_eq_some_iff.1 h
    refine iff_of_false ?_ fun h => hn h.2
    rw [nextLine_of_le (Nat.not_lt.1 hn), Position.max_le, Position.le_min, Position.le_min]
    simp only [Position.le_def, Position.lineStart, maxLine] at hn ⊢
    omega

/-- A span that is moved stays in order unless its ends are in order by their lines only and these
become one. -/
theorem start_le_stop_of_shiftLines_iff (hs : s.start ≤ s.stop) (delta : Int) :
    (s.shiftLines delta).start ≤ (s.shiftLines delta).stop ↔ ¬ (s.stop.column < s.start.column ∧
      (s.stop.line + delta ≤ 1 ∨ maxLine ≤ s.start.line + delta)) := by
  rw [Position.le_def] at hs ⊢
  simp only [shiftLines, shiftLine, maxLine]
  omega

/-! ## Operations -/

/-- The ways to get spans: from positions and numbers, or from other spans. -/
inductive Operation where
  | new (start stop : Position)
  | between (p q : Position)
  | line (n : Nat)
  | lines (m n : Nat)
  | onLine (line a b : Nat)
  | empty (p : Position)
  | clipToLine (s : Span) (n : Nat)
  | clipTo (s bounds : Span)
  | shiftLines (s : Span) (delta : Int)
  | mergeByLines (spans : List Span)

namespace Operation

/-- The spans that an operation works on. -/
def operands : Operation → List Span
  | new _ _ | between _ _ | line _ | lines _ _ | onLine _ _ _ | empty _ => []
  | clipToLine s _ | shiftLines s _ => [s]
  | clipTo s bounds => [s, bounds]
  | mergeByLines spans => spans

/-- The spans that an operation answers; none if it refuses. -/
def results : Operation → List Span
  | new start stop => (Span.new start stop).toOption.toList
  | between p q => [.between p q]
  | line n => [.line n]
  | lines m n => [.lines m n]
  | onLine n a b => [.onLine n a b]
  | empty p => [.empty p]
  | clipToLine s n => (s.clipToLine n).toList
  | clipTo s bounds => (s.clipTo bounds).toList
  | shiftLines s delta => [s.shiftLines delta]
  | mergeByLines spans => Span.mergeByLines spans

/-- Whether an operation on spans in order turns one round. -/
def TurnsRound : Operation → Prop
  -- The greatest line is to be included, and line 0 comes after it.
  | line n => maxLine ≤ n
  | lines m n => 0 < min m n ∧ maxLine ≤ max m n
  -- There is nothing of the span but column 0, or it is on the greatest line.
  | clipToLine s n => s = .empty ⟨n, 0⟩ ∨ (s.firstLine ≤ n ∧ n ≤ s.lastLine ∧ maxLine ≤ n)
  -- The lines of its ends become one, either the first line or that of the greatest number.
  | shiftLines s delta => s.stop.column < s.start.column ∧
      (s.stop.line + delta ≤ 1 ∨ maxLine ≤ s.start.line + delta)
  | _ => False

/-- What an operation makes of spans in order is in order again unless it turns one round. -/
theorem start_le_stop_of_results_iff (op : Operation) (h : ∀ s ∈ op.operands, s.start ≤ s.stop) :
    (∀ s ∈ op.results, s.start ≤ s.stop) ↔ ¬ op.TurnsRound := by
  cases op <;> simp only [operands, results, TurnsRound, List.forall_mem_singleton,
    not_false_eq_true, iff_true] at h ⊢
  case new start stop =>
    cases hnew : Span.new start stop with
    | ok s =>
      obtain ⟨hle, rfl⟩ := new_eq_ok_iff.1 hnew
      exact List.forall_mem_singleton.2 hle
    | error _ => exact List.forall_mem_nil _
  case between p q => exact start_le_stop_between p q
  case line n =>
    rw [start_le_stop_line_iff]
    omega
  case lines m n =>
    rw [start_le_stop_lines_iff]
    omega
  case onLine line a b => exact start_le_stop_onLine line a b
  case empty p => exact Position.le_refl p
  case clipToLine s n =>
    cases hclip : s.clipToLine n with
    | some t =>
      obtain ⟨hfirst, hlast, -⟩ := clipBefore_eq_some_iff.1 hclip
      rw [Option.toList_some, List.forall_mem_singleton, start_le_stop_of_clipToLine_iff h hclip,
        not_or, ne_eq, and_congr_right_iff]
      intro _
      omega
    | none =>
      have hout : ¬ (s.firstLine ≤ n ∧ n ≤ s.lastLine) := by
        rw [Span.clipToLine] at hclip
        rw [← isSome_clipBefore_iff, hclip]
        exact Bool.false_ne_true
      refine iff_of_true (List.forall_mem_nil _) ?_
      rintro (rfl | ⟨hfirst, hlast, -⟩)
      · -- The span at column 0 touches its line.
        exact hout ⟨Nat.le_refl n, firstLine_le_lastLine h⟩
      · exact hout ⟨hfirst, hlast⟩
  case clipTo s bounds =>
    intro t ht
    exact (clipTo_le (Option.mem_toList.1 ht)).2.1
  case shiftLines s delta => exact start_le_stop_of_shiftLines_iff h delta
  case mergeByLines spans =>
    exact forall_mergeByLines (fun _ t hs _ => start_le_stop_join hs t) h

end Operation

/-! ## Any number of operations -/

/-- Operations of which each works on spans that the ones before have answered, and all the spans
that they answer. -/
inductive Composes : List Operation → List Span → Prop
  | start : Composes [] []
  | step {ops : List Operation} {spans : List Span} (h : Composes ops spans) (op : Operation)
    (hop : op.operands ⊆ spans) : Composes (ops ++ [op]) (spans ++ op.results)

/-- All spans that operations answer are in order exactly if no operation turns one round. -/
theorem Composes.start_le_stop_iff {ops : List Operation} {spans : List Span}
    (h : Composes ops spans) :
    (∀ s ∈ spans, s.start ≤ s.stop) ↔ ∀ op ∈ ops, ¬ op.TurnsRound := by
  induction h with
  | start => exact iff_of_true (List.forall_mem_nil _) (List.forall_mem_nil _)
  | @step ops spans _ op hop ih =>
    rw [List.forall_mem_append, List.forall_mem_append, List.forall_mem_singleton, ih]
    -- As long as nothing was turned round, the operands are in order.
    refine and_congr_right fun hops => ?_
    exact op.start_le_stop_of_results_iff fun s hs => ih.2 hops s (hop hs)

/-- Lines 2 to 4, moved up beyond line 1 and merged with where they were. -/
theorem composes_movedAndMerged :
    let lines : Span := ⟨⟨2, 1⟩, ⟨5, 1⟩⟩
    let moved : Span := ⟨⟨1, 1⟩, ⟨1, 1⟩⟩
    let ops := [.lines 4 2, .shiftLines lines (-5), .mergeByLines [lines, moved]]
    let spans := [lines, moved] ++ Span.mergeByLines [lines, moved]
    Composes ops spans ∧ ∀ s ∈ spans, s.start ≤ s.stop := by
  intro lines moved ops spans
  have hlines : Composes [.lines 4 2] [lines] := .step .start (.lines 4 2) (by decide)
  have hmoved : Composes [.lines 4 2, .shiftLines lines (-5)] [lines, moved] :=
    hlines.step (.shiftLines lines (-5)) (by decide)
  have hmerged : Composes ops spans := hmoved.step (.mergeByLines [lines, moved]) (by decide)
  refine ⟨hmerged, hmerged.start_le_stop_iff.2 ?_⟩
  simp [ops, lines, Operation.TurnsRound, maxLine]

/-- A span from column 5 of line 1 to the start of line 2, moved up: it starts on line 1, where it
was, and stops at the start of that line. -/
theorem not_composes_start_le_stop :
    ¬ ∀ ops spans, Composes ops spans → ∀ s ∈ spans, s.start ≤ s.stop := by
  intro h
  have hmade : Composes [.new ⟨1, 5⟩ ⟨2, 1⟩] [⟨⟨1, 5⟩, ⟨2, 1⟩⟩] :=
    .step .start (.new ⟨1, 5⟩ ⟨2, 1⟩) (by decide)
  have hmoved : Composes [.new ⟨1, 5⟩ ⟨2, 1⟩, .shiftLines ⟨⟨1, 5⟩, ⟨2, 1⟩⟩ (-1)]
      [⟨⟨1, 5⟩, ⟨2, 1⟩⟩, ⟨⟨1, 5⟩, ⟨1, 1⟩⟩] :=
    hmade.step (.shiftLines ⟨⟨1, 5⟩, ⟨2, 1⟩⟩ (-1)) (by decide)
  have hle := h _ _ hmoved ⟨⟨1, 5⟩, ⟨1, 1⟩⟩ (by decide)
  exact absurd hle (by decide)

end YamlListing.Span

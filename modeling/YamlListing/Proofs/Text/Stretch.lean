import YamlListing.Proofs.Span.Clip
import YamlListing.Proofs.Text.Place

set_option autoImplicit false

/-! # The spans of stretches of text

`spanOf before raw` is the span of the text `raw` when it is read after `before`. Stretches that
follow each other have spans that do, and the position of a character lies in the span of the
stretch that holds it. -/

namespace YamlListing.Text

/-- The span of a stretch of text, given what comes before it. -/
def spanOf (before raw : Text) : Span := ⟨positionAfter before, positionAfter (before ++ raw)⟩

theorem spanOf_isValid (before raw : Text) : (spanOf before raw).IsValid :=
  ⟨positionAfter_le_append before raw, one_le_positionAfter_column _,
    one_le_positionAfter_column _⟩

theorem spanOf_nil (before : Text) : spanOf before [] = .empty (positionAfter before) := by
  rw [spanOf, List.append_nil, Span.empty]

theorem isEmpty_spanOf {before raw : Text} : (spanOf before raw).isEmpty = true ↔ raw = [] := by
  constructor
  · intro h
    by_cases hraw : raw = []
    · exact hraw
    · have hlt := positionAfter_lt_append hraw (s := before)
      rw [Span.isEmpty, beq_iff_eq, spanOf] at h
      simp only at h
      rw [← h, Position.lt_def] at hlt
      omega
  · rintro rfl
    rw [spanOf_nil, Span.isEmpty, Span.empty, beq_iff_eq]

/-- A character lies in the span of a stretch that holds it. -/
theorem contains_spanOf (before done : Text) (c : Char) (rest : Text) :
    (spanOf before (done ++ c :: rest)).contains (positionAfter (before ++ done)) = true := by
  rw [Span.contains_iff, spanOf, ← List.append_assoc]
  exact ⟨positionAfter_le_append before done, positionAfter_lt_append_cons (before ++ done) c rest⟩

/-- The span of a stretch lies between the positions before and after a text around it. -/
theorem positionAfter_le_spanOf_start (before front raw : Text) :
    positionAfter before ≤ (spanOf (before ++ front) raw).start :=
  positionAfter_le_append before front

theorem spanOf_stop_le_positionAfter (before front raw back : Text) :
    (spanOf (before ++ front) raw).stop ≤ positionAfter (before ++ (front ++ raw ++ back)) := by
  have h := positionAfter_le_append (before ++ front ++ raw) back
  simpa only [spanOf, List.append_assoc] using h

end YamlListing.Text

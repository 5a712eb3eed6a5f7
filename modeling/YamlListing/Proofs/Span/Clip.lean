import YamlListing.Proofs.Position
import YamlListing.Span

set_option autoImplicit false

/-! # The part of a span on a line

A span is valid if its ends come in order and count columns from 1. On a line of a text that a valid
span touches, its part begins at the start of the line unless the span itself begins later, and it
stops at the start of the next line unless the span itself stops earlier
(`clipToTextLine_of_touched`). On any line before the greatest one the part is the same
(`clipToLine_of_lt`). -/

namespace YamlListing

/-! ## Exactly one -/

section countP

variable {α : Type} {p : α → Bool} {xs : List α}

theorem countP_le_one (h : xs.Pairwise fun a b => ¬ (p a = true ∧ p b = true)) :
    xs.countP p ≤ 1 := by
  induction xs with
  | nil => exact Nat.zero_le 1
  | cons a xs ih =>
    obtain ⟨hfirst, hrest⟩ := List.pairwise_cons.1 h
    rw [List.countP_cons]
    by_cases ha : p a = true
    · have hnone : xs.countP p = 0 := List.countP_eq_zero.2 fun b hb hpb => hfirst b hb ⟨ha, hpb⟩
      exact Nat.le_of_eq (by rw [hnone, if_pos ha])
    · rw [if_neg ha, Nat.add_zero]
      exact ih hrest

/-- If no two have a property and there is one that has it, exactly one has it. -/
theorem countP_eq_one (h : xs.Pairwise fun a b => ¬ (p a = true ∧ p b = true))
    (hex : ∃ a ∈ xs, p a = true) : xs.countP p = 1 :=
  Nat.le_antisymm (countP_le_one h) (List.countP_pos_iff.2 hex)

end countP

namespace Span

/-- The spans that have their ends in order and count columns from 1. -/
structure IsValid (s : Span) : Prop where
  start_le_stop : s.start ≤ s.stop
  one_le_start : 1 ≤ s.start.column
  one_le_stop : 1 ≤ s.stop.column

theorem contains_iff {s : Span} {p : Position} :
    s.contains p = true ↔ s.start ≤ p ∧ p < s.stop := by
  rw [contains, Bool.and_eq_true, decide_eq_true_eq, decide_eq_true_eq]

/-! ## The line after a line -/

theorem nextLine_of_lt {n : Nat} (h : n < maxLine) : nextLine n = n + 1 := if_pos h

theorem nextLine_of_le {n : Nat} (h : maxLine ≤ n) : nextLine n = 0 := if_neg (Nat.not_lt.2 h)

/-- Before the greatest line, lines are like those of a text. -/
theorem line_of_lt {n : Nat} (h : n < maxLine) : line n = textLine n := by
  rw [line, nextLine_of_lt h, textLine]

theorem lines_of_lt {m n : Nat} (h : max m n < maxLine) : lines m n = textLines m n := by
  rw [lines, nextLine_of_lt h, textLines]

/-! ## The lines that a span touches -/

theorem lastLine_le (s : Span) : s.lastLine ≤ s.stop.line := by
  rw [lastLine]
  split <;> omega

theorem lastLine_of_one_lt {s : Span} (h : 1 < s.stop.column) : s.lastLine = s.stop.line := by
  rw [lastLine, if_neg (by omega)]

/-! ## Clips -/

theorem clipBefore_eq_some_iff {s t : Span} {n next : Nat} : s.clipBefore n next = some t ↔
    s.firstLine ≤ n ∧ n ≤ s.lastLine ∧
      t = ⟨max s.start (.lineStart n), min s.stop (.lineStart next)⟩ := by
  rw [clipBefore]
  split
  · next hout =>
    constructor
    · intro h
      cases h
    · rintro ⟨hfirst, hlast, -⟩
      omega
  · next hin =>
    rw [Option.some.injEq, eq_comm]
    exact ⟨fun h => ⟨by omega, by omega, h⟩, (·.2.2)⟩

theorem isSome_clipBefore_iff {s : Span} {n next : Nat} :
    (s.clipBefore n next).isSome = true ↔ s.firstLine ≤ n ∧ n ≤ s.lastLine := by
  rw [Option.isSome_iff_exists]
  simp only [clipBefore_eq_some_iff, exists_and_left, exists_eq, and_true]

theorem clipToTextLine_eq_some_iff {s t : Span} {n : Nat} : s.clipToTextLine n = some t ↔
    s.firstLine ≤ n ∧ n ≤ s.lastLine ∧
      t = ⟨max s.start (.lineStart n), min s.stop (.lineStart (n + 1))⟩ :=
  clipBefore_eq_some_iff

/-- Before the greatest line, lines are cut like those of a text. -/
theorem clipToLine_of_lt (s : Span) {n : Nat} (h : n < maxLine) :
    s.clipToLine n = s.clipToTextLine n := by
  rw [clipToLine, nextLine_of_lt h, clipToTextLine]

/-- The position where the part of a span on a line begins. -/
def clipStart (s : Span) (n : Nat) : Position := if n = s.start.line then s.start else .lineStart n

/-- The position where the part of a span on a line stops. -/
def clipStop (s : Span) (n : Nat) : Position :=
  if n < s.stop.line then .lineStart (n + 1) else s.stop

/-- The part of a valid span on a line that it touches. -/
theorem clipToTextLine_of_touched {s : Span} {n : Nat} (h : s.IsValid) (hfirst : s.firstLine ≤ n)
    (hlast : n ≤ s.lastLine) : s.clipToTextLine n = some ⟨s.clipStart n, s.clipStop n⟩ := by
  have hstop := s.lastLine_le
  have hstart : max s.start (.lineStart n) = s.clipStart n := by
    rw [clipStart]
    by_cases hn : n = s.start.line
    · rw [if_pos hn]
      exact Position.max_of_ge (Or.inr ⟨hn, h.one_le_start⟩)
    · rw [if_neg hn]
      rw [firstLine] at hfirst
      exact Position.max_of_le (Or.inl (by simp only [Position.lineStart]; omega))
  have hend : min s.stop (.lineStart (n + 1)) = s.clipStop n := by
    rw [clipStop]
    by_cases hn : n < s.stop.line
    · rw [if_pos hn]
      refine Position.min_of_ge ?_
      rw [Position.le_def]
      have := h.one_le_stop
      simp only [Position.lineStart]
      omega
    · rw [if_neg hn]
      exact Position.min_of_le (Or.inl (by simp only [Position.lineStart]; omega))
  rw [clipToTextLine, clipBefore, if_neg (by omega), hstart, hend]

theorem clipToTextLine_eq_none {s : Span} {n : Nat} (h : n < s.firstLine ∨ s.lastLine < n) :
    s.clipToTextLine n = none := by
  rw [clipToTextLine, clipBefore, if_pos h]

/-- A span reaches as far as a line goes, or to its own stop. -/
theorem clipStop_line_le (s : Span) (n : Nat) (h : n ≤ s.stop.line) :
    n ≤ (s.clipStop n).line ∧ (n < (s.clipStop n).line ↔ n < s.stop.line) := by
  rw [clipStop]
  split
  · next hn => exact ⟨Nat.le_succ n, by simp [Position.lineStart, hn]⟩
  · exact ⟨h, Iff.rfl⟩

end Span

end YamlListing

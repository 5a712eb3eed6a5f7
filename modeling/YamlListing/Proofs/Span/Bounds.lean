import YamlListing.Proofs.Span.Clip

set_option autoImplicit false

/-! # Spans inside bounds

The part of a span inside bounds has those positions of the span that the bounds have
(`contains_of_clipTo`). If the bounds are whole lines, the part of a valid span touches no other
lines (`clipTo_isWithin`), and moving it together with its lines keeps it on them
(`IsWithin.shiftLines`). -/

namespace YamlListing

namespace Span

variable {s t bounds : Span} {p : Position}

/-! ## Clipping to bounds -/

/-- The part of a span inside bounds has those positions of the span that the bounds have. -/
theorem contains_of_clipTo (h : s.clipTo bounds = some t) (hp : bounds.contains p = true) :
    t.contains p = s.contains p := by
  simp only [clipTo] at h
  split at h
  · obtain rfl := Option.some.inj h
    obtain ⟨hlow, hhigh⟩ := contains_iff.1 hp
    rw [Bool.eq_iff_iff, contains_iff, contains_iff, Position.max_le, Position.lt_min,
      and_iff_left hlow, and_iff_left hhigh]
  · cases h

/-- A span without a part inside bounds has none of their positions. -/
theorem contains_of_clipTo_eq_none (h : s.clipTo bounds = none) (hp : bounds.contains p = true) :
    s.contains p = false := by
  simp only [clipTo] at h
  split at h
  · cases h
  · next hout =>
    rw [Bool.eq_false_iff]
    intro hs
    obtain ⟨hlow, hhigh⟩ := contains_iff.1 hp
    obtain ⟨hstart, hstop⟩ := contains_iff.1 hs
    have hle : max s.start bounds.start ≤ p := Position.max_le.2 ⟨hstart, hlow⟩
    have hlt : p < min s.stop bounds.stop := Position.lt_min.2 ⟨hstop, hhigh⟩
    exact hout (Or.inl (Position.lt_of_le_of_lt hle hlt))

theorem clipTo_le (h : s.clipTo bounds = some t) :
    bounds.start ≤ t.start ∧ t.start ≤ t.stop ∧ t.stop ≤ bounds.stop := by
  simp only [clipTo] at h
  split at h
  · next hin =>
    obtain rfl := Option.some.inj h
    refine ⟨Position.le_max_right _ _, ?_, Position.min_le_right _ _⟩
    rcases hin with hlt | ⟨heq, -⟩
    · exact Position.le_of_lt hlt
    · rw [heq]
      exact Position.le_refl _
  · cases h

theorem clipTo_eq_self (hstart : bounds.start ≤ s.start) (hstop : s.stop ≤ bounds.stop)
    (hlt : s.start < s.stop) : s.clipTo bounds = some s := by
  simp only [clipTo, Position.max_of_ge hstart, Position.min_of_le hstop]
  exact if_pos (Or.inl hlt)

/-! ## Bounds of whole lines -/

/-- The valid spans that touch no lines but those from `first` to `last`. -/
structure IsWithin (s : Span) (first last : Nat) : Prop where
  isValid : s.IsValid
  first_le : first ≤ s.firstLine
  le_last : s.lastLine ≤ last

variable {first last : Nat}

/-- The part of a span begins before the bounds stop, even if it contains nothing. -/
theorem start_lt_of_clipTo (h : s.clipTo bounds = some t) : t.start < bounds.stop := by
  simp only [clipTo] at h
  split at h
  · next hin =>
    obtain rfl := Option.some.inj h
    rcases hin with hlt | ⟨-, hcontains⟩
    · exact Position.lt_of_lt_of_le hlt (Position.min_le_right _ _)
    · exact (contains_iff.1 hcontains).2
  · cases h

theorem one_le_column_of_clipTo (h : s.clipTo bounds = some t) (hs : s.IsValid)
    (hstart : 1 ≤ bounds.start.column) (hstop : 1 ≤ bounds.stop.column) :
    1 ≤ t.start.column ∧ 1 ≤ t.stop.column := by
  simp only [clipTo] at h
  split at h
  · obtain rfl := Option.some.inj h
    simp only [Position.max_def, Position.min_def]
    refine ⟨?_, ?_⟩ <;> split
    · exact hstart
    · exact hs.one_le_start
    · exact hs.one_le_stop
    · exact hstop
  · cases h

/-- A span that begins before the line after some lines and stops at its start at the latest touches
none but those. -/
theorem lastLine_le_of_le (ht : t.IsValid) (hstart : t.start < .lineStart (last + 1))
    (hstop : t.stop ≤ .lineStart (last + 1)) : t.lastLine ≤ last := by
  have hcolumn := ht.one_le_start
  rw [Position.lt_def] at hstart
  rw [Position.le_def] at hstop
  simp only [Position.lineStart] at hstart hstop
  rw [lastLine]
  split <;> omega

theorem clipTo_isWithin (hs : s.IsValid)
    (h : s.clipTo ⟨.lineStart first, .lineStart (last + 1)⟩ = some t) : t.IsWithin first last := by
  obtain ⟨hlow, hle, hhigh⟩ := clipTo_le h
  obtain ⟨hstart, hstop⟩ := one_le_column_of_clipTo h hs (Nat.le_refl 1) (Nat.le_refl 1)
  have hvalid : t.IsValid := ⟨hle, hstart, hstop⟩
  refine ⟨hvalid, ?_, lastLine_le_of_le hvalid (start_lt_of_clipTo h) hhigh⟩
  rw [Position.le_def] at hlow
  simp only [Position.lineStart] at hlow
  rw [firstLine]
  omega

/-! ## Moving lines -/

theorem shiftLine_neg {k line : Nat} (hk : k < line) (hmax : line ≤ maxLine) :
    shiftLine (-(k : Int)) line = line - k := by
  rw [shiftLine]
  omega

/-- A span that is moved up by a number of lines has the positions that were that far below. -/
theorem shiftLines_contains {k : Nat} (hstart : k < t.start.line) (hstop : k < t.stop.line)
    (hmax : t.start.line ≤ maxLine) (hmax' : t.stop.line ≤ maxLine) (n column : Nat) :
    (t.shiftLines (-(k : Int))).contains ⟨n, column⟩ = t.contains ⟨n + k, column⟩ := by
  rw [Bool.eq_iff_iff, contains_iff, contains_iff, shiftLines, shiftLine_neg hstart hmax,
    shiftLine_neg hstop hmax']
  simp only [Position.le_def, Position.lt_def]
  omega

/-- A span that is moved up together with its lines stays on them. -/
theorem IsWithin.shiftLines {k : Nat} (h : t.IsWithin first last) (hk : k < first)
    (hmax : last < maxLine) : (t.shiftLines (-(k : Int))).IsWithin (first - k) (last - k) := by
  obtain ⟨⟨hle, hstartColumn, hstopColumn⟩, hfirst, hlast⟩ := h
  rw [firstLine] at hfirst
  rw [Position.le_def] at hle
  have hstop : t.stop.line ≤ last + 1 := by
    rw [lastLine] at hlast
    split at hlast <;> omega
  have hshift : t.shiftLines (-(k : Int)) =
      ⟨⟨t.start.line - k, t.start.column⟩, ⟨t.stop.line - k, t.stop.column⟩⟩ := by
    rw [Span.shiftLines, shiftLine_neg (by omega) (by omega), shiftLine_neg (by omega) (by omega)]
  rw [hshift]
  refine ⟨⟨?_, hstartColumn, hstopColumn⟩, ?_, ?_⟩
  · rw [Position.le_def]
    simp only
    omega
  · rw [firstLine]
    simp only
    omega
  · rw [lastLine] at hlast ⊢
    simp only
    split at hlast <;> split <;> omega

end Span

end YamlListing

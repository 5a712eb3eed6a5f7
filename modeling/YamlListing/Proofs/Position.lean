import YamlListing.Position

set_option autoImplicit false

/-! # The order of positions

Positions are ordered by line and then by column. -/

namespace YamlListing

namespace Position

theorem le_of_lt {p q : Position} (h : p < q) : p ≤ q := by
  rw [lt_def] at h
  rw [le_def]
  omega

theorem le_refl (p : Position) : p ≤ p := by
  rw [le_def]
  omega

theorem le_trans {p q r : Position} (h : p ≤ q) (h' : q ≤ r) : p ≤ r := by
  rw [le_def] at *
  omega

theorem lt_of_le_of_lt {p q r : Position} (h : p ≤ q) (h' : q < r) : p < r := by
  rw [le_def] at h
  rw [lt_def] at *
  omega

theorem lt_of_lt_of_le {p q r : Position} (h : p < q) (h' : q ≤ r) : p < r := by
  rw [le_def] at h'
  rw [lt_def] at *
  omega

theorem not_le {p q : Position} : ¬ p ≤ q ↔ q < p := by
  rw [lt_def, le_def]
  omega

theorem not_lt {p q : Position} : ¬ p < q ↔ q ≤ p := by
  rw [lt_def, le_def]
  omega

theorem eq_of_le_of_le {p q : Position} (h : p ≤ q) (h' : q ≤ p) : p = q := by
  rw [le_def] at *
  cases p
  cases q
  simp only [mk.injEq] at *
  omega

theorem lt_or_eq_of_le {p q : Position} (h : p ≤ q) : p < q ∨ p = q := by
  by_cases hlt : p < q
  · exact Or.inl hlt
  · exact Or.inr (eq_of_le_of_le h (not_lt.1 hlt))

/-! ## Minimum and maximum -/

theorem max_of_le {p q : Position} (h : p ≤ q) : max p q = q := by
  rw [max_def, if_pos h]

theorem max_of_ge {p q : Position} (h : q ≤ p) : max p q = p := by
  rw [max_def]
  split
  · next h' => exact eq_of_le_of_le h h'
  · rfl

theorem min_of_le {p q : Position} (h : p ≤ q) : min p q = p := by
  rw [min_def, if_pos h]

theorem min_of_ge {p q : Position} (h : q ≤ p) : min p q = q := by
  rw [min_def]
  split
  · next h' => exact eq_of_le_of_le h' h
  · rfl

theorem max_le {p q r : Position} : max p q ≤ r ↔ p ≤ r ∧ q ≤ r := by
  rw [max_def]
  split
  · next h => exact ⟨fun hr => ⟨le_trans h hr, hr⟩, And.right⟩
  · next h =>
    have hqp : q ≤ p := le_of_lt (not_le.1 h)
    exact ⟨fun hr => ⟨hr, le_trans hqp hr⟩, And.left⟩

theorem max_lt {p q r : Position} : max p q < r ↔ p < r ∧ q < r := by
  rw [max_def]
  split
  · next h => exact ⟨fun hr => ⟨lt_of_le_of_lt h hr, hr⟩, And.right⟩
  · next h =>
    have hqp : q ≤ p := le_of_lt (not_le.1 h)
    exact ⟨fun hr => ⟨hr, lt_of_le_of_lt hqp hr⟩, And.left⟩

theorem lt_min {p q r : Position} : r < min p q ↔ r < p ∧ r < q := by
  rw [min_def]
  split
  · next h => exact ⟨fun hr => ⟨hr, lt_of_lt_of_le hr h⟩, And.left⟩
  · next h =>
    have hqp : q ≤ p := le_of_lt (not_le.1 h)
    exact ⟨fun hr => ⟨lt_of_lt_of_le hr hqp, hr⟩, And.right⟩

theorem lt_max {p q r : Position} : r < max p q ↔ r < p ∨ r < q := by
  rw [max_def]
  split
  · next h => exact ⟨Or.inr, fun hr => hr.elim (lt_of_lt_of_le · h) id⟩
  · next h =>
    have hqp : q ≤ p := le_of_lt (not_le.1 h)
    exact ⟨Or.inl, fun hr => hr.elim id (lt_of_lt_of_le · hqp)⟩

theorem le_min {p q r : Position} : r ≤ min p q ↔ r ≤ p ∧ r ≤ q := by
  rw [min_def]
  split
  · next h => exact ⟨fun hr => ⟨hr, le_trans hr h⟩, And.left⟩
  · next h =>
    have hqp : q ≤ p := le_of_lt (not_le.1 h)
    exact ⟨fun hr => ⟨le_trans hr hqp, hr⟩, And.right⟩

theorem le_max_right (p q : Position) : q ≤ max p q := (max_le.1 (le_refl _)).2

theorem min_le_right (p q : Position) : min p q ≤ q := by
  rw [min_def]
  split
  · next h => exact h
  · exact le_refl q

theorem line_max (p q : Position) : (max p q).line = max p.line q.line := by
  rw [max_def]
  split
  · next h =>
    rw [le_def] at h
    omega
  · next h =>
    rw [le_def] at h
    omega

theorem max_max_of_le {p q r : Position} (h : q ≤ r) : max (max p q) r = max p r := by
  by_cases hpq : p ≤ q
  · rw [max_of_le hpq, max_of_le h, max_of_le (le_trans hpq h)]
  · rw [max_of_ge (le_of_lt (not_le.1 hpq))]

theorem min_min_of_le {p q r : Position} (h : r ≤ q) : min (min p q) r = min p r := by
  by_cases hpq : p ≤ q
  · rw [min_of_le hpq]
  · have hqp := le_of_lt (not_le.1 hpq)
    rw [min_of_ge hqp, min_of_ge h, min_of_ge (le_trans h hqp)]

end Position

end YamlListing

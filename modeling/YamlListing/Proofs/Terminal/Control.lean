import YamlListing.Terminal.Control

set_option autoImplicit false

/-! # Controls made visible

Where a control is replaced, a picture in the plane of the control pictures or the replacement
character takes its place, and neither is a control. -/

namespace YamlListing.Terminal

theorem isControl_escapeChar (c : Char) : isControl (escapeChar c) = false := by
  rw [escapeChar]
  split
  · next h =>
    have hpicture : ∀ n < 0x20, isControl (Char.ofNat (0x2400 + n)) = false := by decide
    exact hpicture c.toNat h
  · split
    · decide
    · split
      · decide
      · next hlow hdel hhigh =>
        have hne : c.toNat ≠ 0x7F := fun h => hdel (Char.toNat_inj.1 h)
        rw [isControl, Bool.or_eq_false_iff, Bool.and_eq_false_iff, decide_eq_false_iff_not,
          decide_eq_false_iff_not, decide_eq_false_iff_not]
        omega

theorem isControl_of_mem_escape {t : Text} {c : Char} (h : c ∈ escape t) :
    isControl c = false := by
  obtain ⟨d, -, rfl⟩ := List.mem_map.1 h
  exact isControl_escapeChar d

theorem not_mem_escape {c : Char} (h : isControl c = true) (t : Text) : c ∉ escape t := by
  intro hc
  rw [isControl_of_mem_escape hc] at h
  cases h

theorem isControl_of_isDigit {c : Char} (h : c.isDigit = true) : isControl c = false := by
  rw [Char.isDigit, Bool.and_eq_true, decide_eq_true_eq, decide_eq_true_eq, ge_iff_le,
    UInt32.le_iff_toNat_le, UInt32.le_iff_toNat_le] at h
  have hlow : 48 ≤ c.toNat := h.1
  have hhigh : c.toNat ≤ 57 := h.2
  rw [isControl, Bool.or_eq_false_iff, Bool.and_eq_false_iff, decide_eq_false_iff_not,
    decide_eq_false_iff_not, decide_eq_false_iff_not]
  omega

end YamlListing.Terminal

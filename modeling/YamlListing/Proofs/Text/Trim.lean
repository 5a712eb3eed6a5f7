import YamlListing.Text.Basic

set_option autoImplicit false

/-! # Trimming

Trimming takes blanks off the ends of a text and nothing else: `exists_trimEnd_append` says so of the
end alone, `exists_trim_eq` of both. So a text that has no blanks is what trimming leaves of it,
whatever blanks stand around it (`trim_surrounded`). -/

namespace YamlListing.Text

open Unicode (isBlank)

/-! ## The end -/

/-- Trimming takes only blanks off the end of a text. -/
theorem exists_trimEnd_append (t : Text) :
    ∃ gap, t = trimEnd t ++ gap ∧ ∀ c ∈ gap, isBlank c = true := by
  induction t with
  | nil => exact ⟨[], rfl, by simp⟩
  | cons c t ih =>
      obtain ⟨gap, ht, hgap⟩ := ih
      rw [trimEnd]
      split
      · next h =>
          rw [h, List.nil_append] at ht
          subst ht
          split
          · next hc => exact ⟨c :: t, rfl, by simpa [hc] using hgap⟩
          · exact ⟨t, rfl, hgap⟩
      · exact ⟨gap, by rw [List.cons_append, ← ht], hgap⟩

theorem trimEnd_isPrefix (t : Text) : trimEnd t <+: t := by
  obtain ⟨gap, ht, -⟩ := exists_trimEnd_append t
  exact ⟨gap, ht.symm⟩

theorem trimEnd_of_isBlank {gap : Text} (h : ∀ c ∈ gap, isBlank c = true) : trimEnd gap = [] := by
  induction gap with
  | nil => rfl
  | cons c gap ih =>
    obtain ⟨hc, hgap⟩ := List.forall_mem_cons.1 h
    rw [trimEnd, ih hgap]
    exact if_pos hc

theorem trimEnd_append_of_isBlank (t : Text) {gap : Text} (h : ∀ c ∈ gap, isBlank c = true) :
    trimEnd (t ++ gap) = trimEnd t := by
  induction t with
  | nil => exact trimEnd_of_isBlank h
  | cons c t ih => rw [List.cons_append, trimEnd, ih, trimEnd]

theorem trimEnd_concat (t : Text) {c : Char} (h : isBlank c = false) :
    trimEnd (t ++ [c]) = t ++ [c] := by
  induction t with
  | nil => rw [List.nil_append, trimEnd, trimEnd, h]; rfl
  | cons d t ih =>
    rw [List.cons_append, trimEnd, ih]
    split
    · next hnil => exact absurd hnil (List.append_ne_nil_of_right_ne_nil t (List.cons_ne_nil c []))
    · rfl

/-- Only a blank at the end makes trimming change a text. -/
theorem trimEnd_eq_self_iff {t : Text} :
    trimEnd t = t ↔ ∀ c ∈ t.getLast?, isBlank c = false := by
  rcases List.eq_nil_or_concat t with rfl | ⟨s, c, rfl⟩
  · exact iff_of_true rfl nofun
  · rw [List.concat_eq_append, List.getLast?_concat]
    constructor
    · rintro h d ⟨⟩
      refine Bool.eq_false_iff.2 fun hc => ?_
      have hs := trimEnd_append_of_isBlank s (List.forall_mem_singleton.2 hc)
      have hlength := (trimEnd_isPrefix s).length_le
      rw [← hs, h, List.length_append, List.length_singleton] at hlength
      omega
    · exact fun h => trimEnd_concat s (h c rfl)

theorem trimEnd_trimEnd (t : Text) : trimEnd (trimEnd t) = trimEnd t := by
  obtain ⟨gap, ht, hgap⟩ := exists_trimEnd_append t
  rw [← trimEnd_append_of_isBlank (trimEnd t) hgap, ← ht]

/-! ## Both ends -/

theorem trimStart_append_of_isBlank {gap : Text} (h : ∀ c ∈ gap, isBlank c = true) (t : Text) :
    trimStart (gap ++ t) = trimStart t :=
  List.dropWhile_append_of_pos h

theorem trimStart_of_not_isBlank {t : Text} (h : ∀ c ∈ t.head?, isBlank c = false) :
    trimStart t = t := by
  cases t with
  | nil => rfl
  | cons c t => exact List.dropWhile_cons_of_neg (ne_true_of_eq_false (h c rfl))

/-- Trimming takes only blanks off a text. -/
theorem exists_trim_eq (t : Text) : ∃ before after, t = before ++ trim t ++ after ∧
    (∀ c ∈ before, isBlank c = true) ∧ ∀ c ∈ after, isBlank c = true := by
  obtain ⟨after, htrim, hafter⟩ := exists_trimEnd_append (trimStart t)
  refine ⟨t.takeWhile isBlank, after, ?_, List.all_eq_true.1 List.all_takeWhile, hafter⟩
  rw [List.append_assoc, trim, ← htrim]
  exact (List.takeWhile_append_dropWhile ..).symm

theorem trim_eq_nil_iff {t : Text} : trim t = [] ↔ ∀ c ∈ t, isBlank c = true := by
  constructor
  · intro h
    obtain ⟨before, after, ht, hbefore, hafter⟩ := exists_trim_eq t
    rw [h, List.append_nil] at ht
    rw [ht]
    exact List.forall_mem_append.2 ⟨hbefore, hafter⟩
  · intro h
    rw [trim, ← List.append_nil t, trimStart_append_of_isBlank h]
    rfl

/-- A text that has no blanks is what trimming leaves of it. -/
theorem trim_surrounded {before t after : Text} (hbefore : ∀ c ∈ before, isBlank c = true)
    (ht : ∀ c ∈ t, isBlank c = false) (hafter : ∀ c ∈ after, isBlank c = true) :
    trim (before ++ t ++ after) = t := by
  rw [trim, List.append_assoc, trimStart_append_of_isBlank hbefore]
  cases t with
  | nil => exact trim_eq_nil_iff.2 hafter
  | cons c t =>
    have hstart : ∀ d ∈ (c :: t ++ after).head?, isBlank d = false := by
      rintro d ⟨⟩
      exact ht c List.mem_cons_self
    rw [trimStart_of_not_isBlank hstart, trimEnd_append_of_isBlank _ hafter, trimEnd_eq_self_iff]
    exact fun d hd => ht d (List.mem_of_mem_getLast? hd)

end YamlListing.Text

import YamlListing.Listing.LineRange
import YamlListing.Proofs.Text.Numeral

set_option autoImplicit false

/-! # Reading ranges of lines

The five ways to write a range (`IsWritten`): with two bounds, with one of them or both left open,
and as a single line. Main statement: `ofText_isExact`, these are read and nothing else, and what is
written in decimal reads back as the range that it stands for. -/

namespace YamlListing.LineRange

open Text (IsNumeral decimal maxNatural)
open Unicode (isBlank)

/-! ## Bounds -/

/-- Whether a bound is left open: there is nothing but blanks. -/
def IsOpen (t : Text) : Prop := ∀ c ∈ t, isBlank c = true

/-- Whether a text writes a bound: a number that fits, perhaps with blanks around it. -/
def IsBound (t : Text) (n : Nat) : Prop :=
  ∃ before numeral after, t = before ++ numeral ++ after ∧ IsOpen before ∧ IsNumeral numeral n ∧
    IsOpen after ∧ n ≤ maxNatural

section bounds

variable {t : Text} {n : Nat}

theorem isBound_iff : IsBound t n ↔ IsNumeral (Text.trim t) n ∧ n ≤ maxNatural := by
  constructor
  · rintro ⟨before, numeral, after, rfl, hbefore, hnumeral, hafter, hle⟩
    rw [Text.trim_surrounded hbefore hnumeral.not_isBlank hafter]
    exact ⟨hnumeral, hle⟩
  · rintro ⟨hnumeral, hle⟩
    obtain ⟨before, after, ht, hbefore, hafter⟩ := Text.exists_trim_eq t
    exact ⟨before, Text.trim t, after, ht, hbefore, hnumeral, hafter, hle⟩

theorem IsBound.not_isOpen (h : IsBound t n) : ¬ IsOpen t := by
  intro hopen
  exact (isBound_iff.1 h).1.ne_nil (Text.trim_eq_nil_iff.2 hopen)

theorem bound?_eq_some_iff {ifOpen : Nat} :
    bound? ifOpen t = some n ↔ IsOpen t ∧ n = ifOpen ∨ IsBound t n := by
  rw [bound?]
  by_cases hopen : IsOpen t
  · have htrim : Text.trim t = [] := Text.trim_eq_nil_iff.2 hopen
    have hbound : ¬ IsBound t n := fun h => h.not_isOpen hopen
    simp only [htrim, List.isEmpty_nil, if_true, Option.some.injEq, hopen, true_and, hbound, or_false]
    exact eq_comm
  · have htrim : (Text.trim t).isEmpty = false :=
      List.isEmpty_eq_false_iff.2 fun h => hopen (Text.trim_eq_nil_iff.1 h)
    simp only [htrim, Bool.false_eq_true, if_false, Text.natural?_eq_some_iff, hopen, false_and,
      false_or, isBound_iff]

theorem IsBound.le_maxNatural (h : IsBound t n) : n ≤ maxNatural := (isBound_iff.1 h).2

theorem IsOpen.colon_notMem (h : IsOpen t) : ':' ∉ t :=
  fun hmem => absurd (h ':' hmem) (by decide)

theorem IsBound.colon_notMem (h : IsBound t n) : ':' ∉ t := by
  obtain ⟨before, numeral, after, rfl, hbefore, hnumeral, hafter, -⟩ := h
  rw [List.mem_append, List.mem_append, not_or, not_or]
  refine ⟨⟨hbefore.colon_notMem, fun hmem => ?_⟩, hafter.colon_notMem⟩
  rcases hnumeral.isDigit_or_eq ':' hmem with hdigit | heq
  · cases hdigit
  · exact absurd heq (by decide)

theorem decimal_isBound (h : n ≤ maxNatural) : IsBound (decimal n) n :=
  ⟨[], decimal n, [], by simp, List.forall_mem_nil _, Text.decimal_isNumeral n,
    List.forall_mem_nil _, h⟩

end bounds

/-! ## Ranges -/

/-- A text that writes a range. -/
inductive IsWritten : Text → LineRange → Prop
  | between {s t : Text} {a b : Nat} (ha : IsBound s a) (hb : IsBound t b) (hone : 1 ≤ a)
    (hle : a ≤ b) : IsWritten (s ++ ':' :: t) ⟨a, b⟩
  | onward {s t : Text} {a : Nat} (ha : IsBound s a) (ht : IsOpen t) (hone : 1 ≤ a) :
    IsWritten (s ++ ':' :: t) ⟨a, maxNatural⟩
  | upTo {s t : Text} {b : Nat} (hs : IsOpen s) (hb : IsBound t b) (hone : 1 ≤ b) :
    IsWritten (s ++ ':' :: t) ⟨1, b⟩
  | whole {s t : Text} (hs : IsOpen s) (ht : IsOpen t) : IsWritten (s ++ ':' :: t) ⟨1, maxNatural⟩
  | single {t : Text} {a : Nat} (ha : IsBound t a) (hone : 1 ≤ a) : IsWritten t ⟨a, a⟩

section ranges

variable {s t : Text} {a b : Nat} {r : LineRange}

theorem bounds?_of_colon_notMem (h : ':' ∉ t) :
    bounds? t = some ⟨a, b⟩ ↔ bound? 0 t = some a ∧ b = a := by
  have ht : ∀ c ∈ t, (c != ':') = true := fun c hc => bne_iff_ne.2 (ne_of_mem_of_not_mem hc h)
  have hdrop : t.dropWhile (· != ':') = [] := by
    rw [← List.append_nil t, List.dropWhile_append_of_pos ht]
    rfl
  rw [bounds?, hdrop]
  simp only [Option.bind_eq_bind, Option.pure_def, Option.bind_eq_some_iff, Option.some.injEq]
  constructor
  · rintro ⟨n, hn, ⟨⟩⟩
    exact ⟨hn, rfl⟩
  · rintro ⟨ha, rfl⟩
    exact ⟨b, ha, rfl⟩

theorem bounds?_append_colon (h : ':' ∉ s) (t : Text) : bounds? (s ++ ':' :: t) = some ⟨a, b⟩ ↔
    bound? 1 s = some a ∧ bound? maxNatural t = some b := by
  have hs : ∀ c ∈ s, (c != ':') = true := fun c hc => bne_iff_ne.2 (ne_of_mem_of_not_mem hc h)
  have hdrop : (s ++ ':' :: t).dropWhile (· != ':') = ':' :: t := by
    rw [List.dropWhile_append_of_pos hs]
    rfl
  have htake : (s ++ ':' :: t).takeWhile (· != ':') = s := by
    rw [List.takeWhile_append_of_pos hs]
    exact List.append_nil s
  rw [bounds?, hdrop, htake]
  simp only [Option.bind_eq_bind, Option.pure_def, Option.bind_eq_some_iff, Option.some.injEq]
  constructor
  · rintro ⟨a, ha, b, hb, ⟨⟩⟩
    exact ⟨ha, hb⟩
  · rintro ⟨ha, hb⟩
    exact ⟨a, ha, b, hb, rfl⟩

theorem ofText_eq_ok_iff :
    ofText t = .ok r ↔ bounds? t = some r ∧ 1 ≤ r.first ∧ r.first ≤ r.last := by
  rw [ofText]
  split
  · next r' hr' =>
    rw [hr', Option.some.injEq]
    split
    · next hvalid =>
      rw [Except.ok.injEq]
      exact ⟨fun heq => heq ▸ ⟨rfl, hvalid⟩, fun h => h.1⟩
    · next hvalid => exact ⟨nofun, fun h => absurd (h.1 ▸ h.2) hvalid⟩
  · next hnone =>
    rw [hnone]
    exact ⟨nofun, nofun⟩

theorem IsWritten.ofText_eq (h : IsWritten t r) : ofText t = .ok r := by
  rw [ofText_eq_ok_iff]
  cases h with
  | between ha hb hone hle =>
    rw [bounds?_append_colon ha.colon_notMem]
    exact ⟨⟨bound?_eq_some_iff.2 (Or.inr ha), bound?_eq_some_iff.2 (Or.inr hb)⟩, hone, hle⟩
  | onward ha ht hone =>
    rw [bounds?_append_colon ha.colon_notMem]
    exact ⟨⟨bound?_eq_some_iff.2 (Or.inr ha), bound?_eq_some_iff.2 (Or.inl ⟨ht, rfl⟩)⟩, hone,
      ha.le_maxNatural⟩
  | upTo hs hb hone =>
    rw [bounds?_append_colon hs.colon_notMem]
    exact ⟨⟨bound?_eq_some_iff.2 (Or.inl ⟨hs, rfl⟩), bound?_eq_some_iff.2 (Or.inr hb)⟩,
      Nat.le_refl 1, hone⟩
  | whole hs ht =>
    rw [bounds?_append_colon hs.colon_notMem]
    exact ⟨⟨bound?_eq_some_iff.2 (Or.inl ⟨hs, rfl⟩), bound?_eq_some_iff.2 (Or.inl ⟨ht, rfl⟩)⟩,
      Nat.le_refl 1, by decide⟩
  | single ha hone =>
    rw [bounds?_of_colon_notMem ha.colon_notMem]
    exact ⟨⟨bound?_eq_some_iff.2 (Or.inr ha), rfl⟩, hone, Nat.le_refl _⟩

theorem isWritten_of_ofText (h : ofText t = .ok r) : IsWritten t r := by
  obtain ⟨hbounds, hone, hle⟩ := ofText_eq_ok_iff.1 h
  obtain ⟨first, last⟩ := r
  by_cases hcolon : ':' ∈ t
  · -- The bounds are cut at the first colon.
    obtain ⟨s, u, rfl, hs⟩ := List.eq_append_cons_of_mem hcolon
    obtain ⟨hfirst, hlast⟩ := (bounds?_append_colon hs u).1 hbounds
    rcases bound?_eq_some_iff.1 hfirst with ⟨hs, rfl⟩ | ha <;>
      rcases bound?_eq_some_iff.1 hlast with ⟨hu, rfl⟩ | hb
    · exact .whole hs hu
    · exact .upTo hs hb hle
    · exact .onward ha hu hone
    · exact .between ha hb hone hle
  · obtain ⟨hfirst, rfl⟩ := (bounds?_of_colon_notMem hcolon).1 hbounds
    rcases bound?_eq_some_iff.1 hfirst with ⟨-, rfl⟩ | ha
    · exact absurd hone (by decide)
    · exact .single ha hone

theorem ofText_eq_error_of_forall (h : ∀ r, ¬ IsWritten t r) : ofText t = .error ⟨t⟩ := by
  have hok : ∀ r, ofText t ≠ .ok r := fun r hr => h r (isWritten_of_ofText hr)
  rw [ofText] at hok ⊢
  split
  · next r hr =>
    rw [hr] at hok
    exact if_neg fun hvalid => hok r (if_pos hvalid)
  · rfl

end ranges

/-- A text is read exactly if it writes a range, and as that range; any other is named in the error.
What is written in decimal reads back. -/
theorem ofText_isExact : (∀ t r, ofText t = .ok r ↔ IsWritten t r) ∧
    (∀ t, (¬ ∃ r, IsWritten t r) → ofText t = .error ⟨t⟩) ∧
    ∀ a b, 1 ≤ a → a ≤ b → b ≤ maxNatural →
      ofText (decimal a ++ ':' :: decimal b) = .ok ⟨a, b⟩ ∧
      ofText (decimal a ++ [':']) = .ok ⟨a, maxNatural⟩ ∧
      ofText (':' :: decimal b) = .ok ⟨1, b⟩ ∧
      ofText (decimal a) = .ok ⟨a, a⟩ := by
  refine ⟨fun t r => ⟨isWritten_of_ofText, IsWritten.ofText_eq⟩,
    fun t h => ofText_eq_error_of_forall fun r hr => h ⟨r, hr⟩, ?_⟩
  intro a b hone hle hmax
  have ha : IsBound (decimal a) a := decimal_isBound (Nat.le_trans hle hmax)
  have hb : IsBound (decimal b) b := decimal_isBound hmax
  have hopen : IsOpen [] := List.forall_mem_nil _
  exact ⟨(IsWritten.between ha hb hone hle).ofText_eq, (IsWritten.onward ha hopen hone).ofText_eq,
    (IsWritten.upTo hopen hb (Nat.le_trans hone hle)).ofText_eq,
    (IsWritten.single ha hone).ofText_eq⟩

theorem ofText_isExact_twoToThree :
    (1 ≤ 2 ∧ 2 ≤ 3 ∧ 3 ≤ maxNatural ∧ ofText ['2', ':', '3'] = .ok ⟨2, 3⟩) ∧
      (¬ ∃ r, IsWritten ['3', ':', '2'] r) ∧
      ofText ['3', ':', '2'] = .error ⟨['3', ':', '2']⟩ := by
  have hbackward : ¬ ∃ r, IsWritten ['3', ':', '2'] r := by
    rintro ⟨r, hr⟩
    have hok : ofText ['3', ':', '2'] = .ok r := (ofText_isExact.1 _ r).2 hr
    have herror : ofText ['3', ':', '2'] = .error ⟨['3', ':', '2']⟩ := rfl
    rw [herror] at hok
    cases hok
  have hmax : 3 ≤ maxNatural := by decide
  exact ⟨⟨by decide, by decide, hmax,
    (ofText_isExact.2.2 2 3 (by decide) (by decide) hmax).1⟩, hbackward,
    ofText_isExact.2.1 _ hbackward⟩

end YamlListing.LineRange

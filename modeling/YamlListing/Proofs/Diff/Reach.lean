import YamlListing.Proofs.Diff.Trail

set_option autoImplicit false

/-! # How far changes lead

`Reaches d x y` says that `d` changes, with any number of kept lines, lead to a point. The number of
changes fixes the diagonals on which such points lie (`Reaches.diagonal`), and on each of them one
is the furthest (`IsFurthest`). `IsFurthest.ofSlide` is the step of the search: whoever starts, on a
diagonal, where the last change could lead furthest and then keeps lines as long as possible, gets
as far as `d` changes can lead.

A step that passes the end of a side is of no use. `Reaches.clip` pulls a point back inside both
sides, with one change less for every line that it was outside; so the first point that leaves
nothing of either side is exactly where both end. -/

namespace YamlListing

variable {α : Type}

/-! ## Points that changes lead to -/

theorem mem_diagonals {d : Nat} {k : Int} :
    k ∈ diagonals d ↔ -(d : Int) ≤ k ∧ k ≤ d ∧ (k + d) % 2 = 0 := by
  simp only [diagonals, List.mem_map, List.mem_range]
  constructor
  · rintro ⟨i, hi, rfl⟩
    omega
  · rintro ⟨h, h', hp⟩
    exact ⟨((k + d) / 2).toNat, by omega, by omega⟩

/-- Both sides have the same `n` next lines after a point. -/
def AgreeFor (a b : List α) (x y n : Nat) : Prop :=
  ∀ i < n, ∃ l, a[x + i]? = some l ∧ b[y + i]? = some l

theorem agreeFor_zero (a b : List α) (x y : Nat) : AgreeFor a b x y 0 := by
  intro i hi
  omega

theorem AgreeFor.succ {a b : List α} {x y n : Nat} {l : α} (h : AgreeFor a b x y n)
    (ha : a[x + n]? = some l) (hb : b[y + n]? = some l) : AgreeFor a b x y (n + 1) := by
  intro i hi
  rcases Nat.lt_succ_iff_lt_or_eq.1 hi with hlt | rfl
  · exact h i hlt
  · exact ⟨l, ha, hb⟩

theorem AgreeFor.cons {a b : List α} {x y n : Nat} {l : α} (ha : a[x]? = some l)
    (hb : b[y]? = some l) (h : AgreeFor a b (x + 1) (y + 1) n) : AgreeFor a b x y (n + 1) := by
  intro i hi
  cases i with
  | zero => exact ⟨l, ha, hb⟩
  | succ i => simpa [Nat.add_assoc, Nat.add_comm 1] using h i (by omega)

/-- Changes lead to a point, along with any number of kept lines. -/
def Reaches (a b : List α) (d x y : Nat) : Prop := ∃ s, Trail a b s x y ∧ Edit.distance s = d

namespace Reaches

variable {a b : List α} {d x y : Nat}

theorem delete (h : Reaches a b d x y) : Reaches a b (d + 1) (x + 1) y := by
  obtain ⟨s, hs, rfl⟩ := h
  exact ⟨_, hs.delete, by simp [Edit.isChange]⟩

theorem insert (h : Reaches a b d x y) : Reaches a b (d + 1) x (y + 1) := by
  obtain ⟨s, hs, rfl⟩ := h
  exact ⟨_, hs.insert, by simp [Edit.isChange]⟩

theorem keepFor {n : Nat} (h : Reaches a b d x y) (hn : AgreeFor a b x y n) :
    Reaches a b d (x + n) (y + n) := by
  induction n with
  | zero => exact h
  | succ n ih =>
      obtain ⟨s, hs, rfl⟩ := ih fun i hi => hn i (by omega)
      obtain ⟨l, ha, hb⟩ := hn n (Nat.lt_succ_self n)
      exact ⟨_, hs.keep ha hb, by simp [Edit.isChange]⟩

/-- Each change moves the diagonal by one. -/
theorem diagonal (h : Reaches a b d x y) : (x : Int) - y ∈ diagonals d := by
  obtain ⟨s, hs, rfl⟩ := h
  rw [mem_diagonals]
  induction hs with
  | start => simp
  | delete _ ih | insert _ ih =>
      simp only [Edit.distance_cons, Edit.isChange, if_true]
      omega
  | keep _ _ _ ih =>
      simp only [Edit.distance_cons, Edit.isChange, Bool.false_eq_true, if_false]
      omega

/-- A point past the end of a side can be pulled back inside both sides, which saves a change for
    every line that it was outside. -/
theorem clip (h : Reaches a b d x y) :
    ∃ d', Reaches a b d' (min x a.length) (min y b.length) ∧
      d' + (x - a.length) + (y - b.length) ≤ d := by
  obtain ⟨s, hs, rfl⟩ := h
  induction hs with
  | start => exact ⟨0, ⟨[], by simpa using Trail.start, rfl⟩, by simp⟩
  | @delete s x y _ ih =>
      obtain ⟨d', hd', hle⟩ := ih
      simp only [Edit.distance_cons, Edit.isChange, if_true]
      by_cases hx : x < a.length
      · refine ⟨d' + 1, ?_, by omega⟩
        rw [Nat.min_eq_left (by omega)] at hd' ⊢
        exact hd'.delete
      · refine ⟨d', ?_, by omega⟩
        rw [Nat.min_eq_right (by omega)] at hd' ⊢
        exact hd'
  | @insert s x y _ ih =>
      obtain ⟨d', hd', hle⟩ := ih
      simp only [Edit.distance_cons, Edit.isChange, if_true]
      by_cases hy : y < b.length
      · refine ⟨d' + 1, ?_, by omega⟩
        rw [Nat.min_eq_left (a := y) (by omega)] at hd'
        rw [Nat.min_eq_left (a := y + 1) (by omega)]
        exact hd'.insert
      · refine ⟨d', ?_, by omega⟩
        rw [Nat.min_eq_right (a := y) (by omega)] at hd'
        rw [Nat.min_eq_right (a := y + 1) (by omega)]
        exact hd'
  | @keep s x y l _ ha hb ih =>
      obtain ⟨d', hd', hle⟩ := ih
      have hx : x < a.length := (List.getElem?_eq_some_iff.1 ha).1
      have hy : y < b.length := (List.getElem?_eq_some_iff.1 hb).1
      simp only [Edit.distance_cons, Edit.isChange, Bool.false_eq_true, if_false]
      refine ⟨d', ?_, by omega⟩
      rw [Nat.min_eq_left (by omega), Nat.min_eq_left (by omega)] at hd' ⊢
      obtain ⟨s', hs', rfl⟩ := hd'
      exact ⟨_, hs'.keep ha hb, by simp [Edit.isChange]⟩

end Reaches

/-- What a trail does last: the lines kept after its last change, and where that change begins. -/
theorem Trail.lastChange {a b : List α} {s : List Edit} {x y : Nat} (h : Trail a b s x y) :
    (Edit.distance s = 0 ∧ x = y ∧ AgreeFor a b 0 0 x) ∨
      ∃ d p q n, Edit.distance s = d + 1 ∧ Reaches a b d p q ∧
        ((x = p + 1 + n ∧ y = q + n ∧ AgreeFor a b (p + 1) q n) ∨
          (x = p + n ∧ y = q + 1 + n ∧ AgreeFor a b p (q + 1) n)) := by
  induction h with
  | start => exact Or.inl ⟨rfl, rfl, agreeFor_zero a b 0 0⟩
  | @delete s x y h _ =>
      exact Or.inr ⟨_, x, y, 0, by simp [Edit.isChange], ⟨s, h, rfl⟩,
        Or.inl ⟨rfl, rfl, agreeFor_zero _ _ _ _⟩⟩
  | @insert s x y h _ =>
      exact Or.inr ⟨_, x, y, 0, by simp [Edit.isChange], ⟨s, h, rfl⟩,
        Or.inr ⟨rfl, rfl, agreeFor_zero _ _ _ _⟩⟩
  | @keep s x y l _ ha hb ih =>
      have hd : Edit.distance (.keep (x + 1) (y + 1) :: s) = Edit.distance s := by
        simp [Edit.isChange]
      rw [hd]
      rcases ih with ⟨h0, rfl, hag⟩ | ⟨d, p, q, n, hs, hr, hc⟩
      · exact Or.inl ⟨h0, rfl, hag.succ (by simpa using ha) (by simpa using hb)⟩
      · refine Or.inr ⟨d, p, q, n + 1, hs, hr, ?_⟩
        rcases hc with ⟨rfl, rfl, hag⟩ | ⟨rfl, rfl, hag⟩
        · exact Or.inl ⟨by omega, by omega, hag.succ ha hb⟩
        · exact Or.inr ⟨by omega, by omega, hag.succ ha hb⟩

/-- Where `d + 1` changes lead to on a diagonal, only kept lines follow on the last change. So they
    follow on a point at or before `s`, if the points that `d` changes lead to on the two diagonals
    beside it allow no later one. -/
theorem Reaches.beforeKeeps {a b : List α} {d s x y : Nat} {k : Int} (h : Reaches a b (d + 1) x y)
    (hk : (x : Int) - y = k)
    (hbelow : ∀ p q : Nat, Reaches a b d p q → (p : Int) - q = k - 1 → p < s)
    (habove : ∀ p q : Nat, Reaches a b d p q → (p : Int) - q = k + 1 → p ≤ s) :
    ∃ p q m, p ≤ s ∧ x = p + m ∧ y = q + m ∧ AgreeFor a b p q m := by
  obtain ⟨script, hs, hd⟩ := h
  rcases hs.lastChange with ⟨h0, _⟩ | ⟨e, p, q, m, he, hr, hc⟩
  · omega
  · obtain rfl : e = d := by omega
    rcases hc with ⟨rfl, rfl, hm⟩ | ⟨rfl, rfl, hm⟩
    · exact ⟨p + 1, q, m, hbelow p q hr (by omega), rfl, rfl, hm⟩
    · exact ⟨p, q + 1, m, habove p q hr (by omega), rfl, rfl, hm⟩

/-! ## The furthest point of a diagonal -/

/-- On a diagonal, `d` changes lead to the point that has consumed `x` lines of the origin, and to
    none further. -/
structure IsFurthest (a b : List α) (d : Nat) (k : Int) (x : Nat) : Prop where
  reaches : ∃ y : Nat, (x : Int) - y = k ∧ Reaches a b d x y
  furthest : ∀ x' y' : Nat, Reaches a b d x' y' → (x' : Int) - y' = k → x' ≤ x

theorem IsFurthest.unique {a b : List α} {d x x' : Nat} {k : Int} (h : IsFurthest a b d k x)
    (h' : IsFurthest a b d k x') : x = x' := by
  obtain ⟨y, hy, hr⟩ := h.reaches
  obtain ⟨y', hy', hr'⟩ := h'.reaches
  exact Nat.le_antisymm (h'.furthest x y hr hy) (h.furthest x' y' hr' hy')

/-- Lines kept from a point at or before another on its diagonal end no later than where the two
    sides first differ from that other point on. -/
theorem AgreeFor.le_of_stuck {a b : List α} {p q m s t n : Nat} (h : AgreeFor a b p q m)
    (hps : p ≤ s) (hdiag : p + t = s + q)
    (hstuck : ∀ l, a[s + n]? = some l → b[t + n]? ≠ some l) : p + m ≤ s + n := by
  rcases Nat.lt_or_ge (s + n) (p + m) with hlt | hge
  · obtain ⟨l, ha, hb⟩ := h (s + n - p) (by omega)
    rw [show p + (s + n - p) = s + n by omega] at ha
    rw [show q + (s + n - p) = t + n by omega] at hb
    exact absurd hb (hstuck l ha)
  · exact hge

theorem slide?_toArray [DecidableEq α] (a b : List α) (x y : Nat) :
    ∃ n, slide? a.toArray b.toArray x y = some (x + n) ∧ AgreeFor a b x y n ∧
      ∀ l, a[x + n]? = some l → b[y + n]? ≠ some l := by
  induction hk : a.length - x generalizing x y with
  | zero =>
      have hx : a.length ≤ x := by omega
      refine ⟨0, ?_, agreeFor_zero a b x y, ?_⟩
      · rw [slide?, if_neg (by simp; omega), Nat.add_zero]
      · intro l ha
        rw [List.getElem?_eq_none (by omega)] at ha
        cases ha
  | succ k ih =>
      rw [slide?]
      by_cases hy : y < b.length
      · have hx : x < a.length := by omega
        have hax : lineAfter? a.toArray (x : Int) = some a[x] := by simp [lineAfter?, hx]
        have hby : lineAfter? b.toArray (y : Int) = some b[y] := by simp [lineAfter?, hy]
        rw [if_pos (by simp; omega), hax, hby]
        by_cases hl : a[x] = b[y]
        · obtain ⟨n, hn, hag, hst⟩ := ih (x + 1) (y + 1) (by omega)
          refine ⟨n + 1, ?_, ?_, ?_⟩
          · simp only [if_pos hl]
            rw [show (y : Int) + 1 = ((y + 1 : Nat) : Int) by omega, hn]
            congr 1
            omega
          · exact .cons (List.getElem?_eq_getElem hx) (by rw [hl, List.getElem?_eq_getElem hy]) hag
          · rw [show x + (n + 1) = x + 1 + n by omega, show y + (n + 1) = y + 1 + n by omega]
            exact hst
        · refine ⟨0, by simp [hl], agreeFor_zero a b x y, ?_⟩
          intro l ha hb
          rw [Nat.add_zero, List.getElem?_eq_getElem hx] at ha
          rw [Nat.add_zero, List.getElem?_eq_getElem hy] at hb
          exact hl (Option.some.inj (ha.trans hb.symm))
      · refine ⟨0, ?_, agreeFor_zero a b x y, ?_⟩
        · rw [if_neg (by simp; omega), Nat.add_zero]
        · intro l _ hb
          rw [List.getElem?_eq_none (by omega)] at hb
          cases hb

/-- Keeping lines from a start at or past all others of the diagonal leads furthest. -/
theorem IsFurthest.ofSlide [DecidableEq α] {a b : List α} {d s t : Nat} {k : Int}
    (hst : Reaches a b d s t) (hk : (s : Int) - t = k)
    (hall : ∀ x' y' : Nat, Reaches a b d x' y' → (x' : Int) - y' = k →
      ∃ p q m, p ≤ s ∧ x' = p + m ∧ y' = q + m ∧ AgreeFor a b p q m) :
    ∃ n, slide? a.toArray b.toArray s t = some (s + n) ∧ AgreeFor a b s t n ∧
      IsFurthest a b d k (s + n) := by
  obtain ⟨n, hn, hag, hstuck⟩ := slide?_toArray a b s t
  refine ⟨n, hn, hag, ⟨t + n, by omega, hst.keepFor hag⟩, ?_⟩
  intro x' y' hr hk'
  obtain ⟨p, q, m, hps, rfl, rfl, hm⟩ := hall x' y' hr hk'
  exact hm.le_of_stuck hps (by omega) hstuck

end YamlListing

import Mathlib.Data.Bool.AllAny
import Mathlib.Data.List.Chain
import Mathlib.Data.String.Basic
import YamlListing.Unicode.CodePoints

set_option autoImplicit false

/-! # Looking up code points

Halving finds an entry of a table that starts at or before a key (`of_lastAtMost?`). In a table of
stretches that come in order and do not overlap it finds the one that the key lies in
(`AreStretches.lastAtMost?_eq_some`).

Tables of some thousand code points are compared as numbers: the code points of some ranges are the
bits of one number (`bits`). Ranges have nothing in common if their numbers do not
(`not_inRanges_of_bits`), and they lie in others if their number adds nothing to that of the others
(`inRanges_of_bits`). -/

namespace YamlListing.Unicode

/-! ## Halving -/

section countWhile

variable {p : Nat → Bool} {steps lo hi : Nat}

/-- What is counted last satisfies the test, whatever the test is. -/
theorem countWhile_eq_or (p : Nat → Bool) (steps lo hi : Nat) :
    countWhile p steps lo hi = lo ∨ p (countWhile p steps lo hi - 1) = true := by
  induction steps generalizing lo hi with
  | zero => exact Or.inl rfl
  | succ steps ih =>
    rw [countWhile]
    split
    · split
      · next hmiddle =>
        right
        rcases ih ((lo + hi) / 2 + 1) hi with heq | hlast
        · rw [heq]
          exact hmiddle
        · exact hlast
      · exact ih lo ((lo + hi) / 2)
    · exact Or.inl rfl

variable (hp : ∀ i j, i ≤ j → p j = true → p i = true)
include hp

theorem lt_iff_of_boundary (hbelow : ∀ i < lo, p i = true) (habove : p lo = false) (i : Nat) :
    i < lo ↔ p i = true := by
  refine ⟨hbelow i, fun hi => ?_⟩
  by_contra hge
  rw [hp lo i (by omega) hi] at habove
  cases habove

/-- If a test holds up to some index and no further, halving finds that index. -/
theorem lt_countWhile_iff (hle : lo ≤ hi) (hbelow : ∀ i < lo, p i = true) (habove : p hi = false)
    (hsteps : hi - lo < Nat.pow 2 steps) (i : Nat) :
    i < countWhile p steps lo hi ↔ p i = true := by
  induction steps generalizing lo hi with
  | zero =>
    have hone : Nat.pow 2 0 = 1 := rfl
    obtain rfl : hi = lo := by omega
    exact lt_iff_of_boundary hp hbelow habove i
  | succ steps ih =>
    have hdouble : Nat.pow 2 (steps + 1) = Nat.pow 2 steps * 2 := rfl
    rw [countWhile]
    split
    · split
      · next hmiddle =>
        exact ih (by omega) (fun j hj => hp j _ (by omega) hmiddle) habove (by omega)
      · next hmiddle =>
        exact ih (by omega) hbelow (Bool.eq_false_iff.2 hmiddle) (by omega)
    · next hge =>
      obtain rfl : hi = lo := by omega
      exact lt_iff_of_boundary hp hbelow habove i

end countWhile

/-! ## Tables -/

section lastAtMost?

variable {α : Type} {start stop : α → Nat} {table : Array α} {key i j : Nat} {entry : α}

/-- Whether the entry at an index starts at or before a key. -/
def startsBy (start : α → Nat) (table : Array α) (key i : Nat) : Bool :=
  table[i]?.any fun e => start e ≤ key

theorem startsBy_iff :
    startsBy start table key i = true ↔ ∃ e, table[i]? = some e ∧ start e ≤ key := by
  simp only [startsBy, Option.any_eq_true, decide_eq_true_eq]

theorem lastAtMost?_eq (start : α → Nat) (table : Array α) (key : Nat) :
    lastAtMost? start table key =
      match countWhile (startsBy start table key) (Nat.log2 table.size + 1) 0 table.size with
      | 0 => none
      | n + 1 => table[n]? :=
  rfl

/-- What is found is an entry of the table that starts at or before the key. -/
theorem of_lastAtMost? (h : lastAtMost? start table key = some entry) :
    entry ∈ table ∧ start entry ≤ key := by
  rw [lastAtMost?_eq] at h
  split at h
  · cases h
  · next n hcount =>
    refine ⟨Array.mem_of_getElem? h, ?_⟩
    rcases countWhile_eq_or (startsBy start table key) _ 0 table.size with hnone | hlast
    · rw [hcount] at hnone
      cases hnone
    · rw [hcount] at hlast
      obtain ⟨e, he, hkey⟩ := startsBy_iff.1 hlast
      obtain rfl := Option.some.inj (h.symm.trans he)
      exact hkey

/-- Whether the entries of a table are stretches that come in order and do not overlap. -/
structure AreStretches (start stop : α → Nat) (table : Array α) : Prop where
  start_le_stop : ∀ e ∈ table.toList, start e ≤ stop e
  sorted : table.toList.Pairwise fun a b => stop a < start b

/-- Neighbours are enough to see that stretches come in order. -/
theorem AreStretches.of_isChain (h : ∀ e ∈ table.toList, start e ≤ stop e)
    (hchain : table.toList.IsChain fun a b => stop a < start b ∧ start b ≤ stop b) :
    AreStretches start stop table := by
  have htrans : Trans (fun a b => stop a < start b ∧ start b ≤ stop b)
      (fun a b => stop a < start b ∧ start b ≤ stop b)
      fun a b => stop a < start b ∧ start b ≤ stop b :=
    ⟨fun hab hbc => ⟨Nat.lt_of_lt_of_le hab.1 (Nat.le_trans hab.2 (Nat.le_of_lt hbc.1)), hbc.2⟩⟩
  exact ⟨h, hchain.pairwise.imp And.left⟩

theorem AreStretches.stop_lt_start (h : AreStretches start stop table) (hij : i < j) {a b : α}
    (ha : table[i]? = some a) (hb : table[j]? = some b) : stop a < start b := by
  rw [← Array.getElem?_toList] at ha hb
  obtain ⟨hi, rfl⟩ := List.getElem?_eq_some_iff.1 ha
  obtain ⟨hj, rfl⟩ := List.getElem?_eq_some_iff.1 hb
  exact List.pairwise_iff_getElem.1 h.sorted i j hi hj hij

theorem AreStretches.startsBy_of_le (h : AreStretches start stop table) (hij : i ≤ j)
    (hj : startsBy start table key j = true) : startsBy start table key i = true := by
  rcases Nat.lt_or_eq_of_le hij with hlt | rfl
  · obtain ⟨b, hb, hkey⟩ := startsBy_iff.1 hj
    obtain ⟨hjsize, -⟩ := Array.getElem?_eq_some_iff.1 hb
    have ha : table[i]? = some table[i] := Array.getElem?_eq_getElem (by omega)
    have hbefore := h.stop_lt_start hlt ha hb
    have hle := h.start_le_stop table[i] (Array.getElem_mem_toList ..)
    exact startsBy_iff.2 ⟨_, ha, by omega⟩
  · exact hj

/-- The stretch that a key lies in is found. -/
theorem AreStretches.lastAtMost?_eq_some (h : AreStretches start stop table)
    (hmem : entry ∈ table.toList) (hstart : start entry ≤ key) (hstop : key ≤ stop entry) :
    lastAtMost? start table key = some entry := by
  obtain ⟨k, hk, hentry⟩ := List.mem_iff_getElem.1 hmem
  have hget : table[k]? = some entry := by
    rw [← Array.getElem?_toList, List.getElem?_eq_getElem hk, hentry]
  have habove : startsBy start table key table.size = false := by
    rw [startsBy, Array.getElem?_eq_none (Nat.le_refl _), Option.any_none]
  have hcount (i : Nat) : i < countWhile (startsBy start table key) (Nat.log2 table.size + 1) 0
      table.size ↔ startsBy start table key i = true :=
    lt_countWhile_iff (fun _ _ => h.startsBy_of_le) (Nat.zero_le _)
      (fun i hi => absurd hi (Nat.not_lt_zero i)) habove Nat.lt_log2_self i
  -- The entry starts at or before the key, and the next one does not.
  have hlow := (hcount k).2 (startsBy_iff.2 ⟨entry, hget, hstart⟩)
  have hhigh : ¬ k + 1 < countWhile (startsBy start table key) (Nat.log2 table.size + 1) 0
      table.size := by
    rw [hcount, startsBy_iff]
    rintro ⟨b, hb, hkey⟩
    have hafter := h.stop_lt_start (Nat.lt_succ_self k) hget hb
    omega
  rw [lastAtMost?_eq, Nat.le_antisymm (Nat.not_lt.1 hhigh) hlow]
  exact hget

end lastAtMost?

/-! ## Ranges -/

/-- Whether a code point lies in one of some ranges, both ends included. -/
def InRanges (ranges : List (Nat × Nat)) (x : Nat) : Prop := ∃ r ∈ ranges, r.1 ≤ x ∧ x ≤ r.2

instance (ranges : List (Nat × Nat)) (x : Nat) : Decidable (InRanges ranges x) :=
  inferInstanceAs (Decidable (∃ r ∈ ranges, r.1 ≤ x ∧ x ≤ r.2))

/-- The ranges of single code points. -/
def points (xs : List Nat) : List (Nat × Nat) := xs.map fun x => (x, x)

/-- The code points of some ranges as the bits of a number. -/
def bits (ranges : List (Nat × Nat)) : Nat :=
  ranges.foldr (fun r n => ((1 <<< (r.2 + 1 - r.1)) - 1) <<< r.1 ||| n) 0

variable {ranges others : List (Nat × Nat)} {x : Nat}

theorem inRanges_points {xs : List Nat} : InRanges (points xs) x ↔ x ∈ xs := by
  simp only [InRanges, points, List.mem_map]
  constructor
  · rintro ⟨_, ⟨y, hy, rfl⟩, hle, hge⟩
    rwa [Nat.le_antisymm hge hle]
  · intro hx
    exact ⟨_, ⟨x, hx, rfl⟩, Nat.le_refl x, Nat.le_refl x⟩

theorem inRanges_cons {r : Nat × Nat} :
    InRanges (r :: ranges) x ↔ (r.1 ≤ x ∧ x ≤ r.2) ∨ InRanges ranges x := by
  simp only [InRanges, List.mem_cons, exists_eq_or_imp]

theorem inRanges_flatMap {α : Type} {l : List α} {f : α → List (Nat × Nat)} :
    InRanges (l.flatMap f) x ↔ ∃ a ∈ l, InRanges (f a) x := by
  simp only [InRanges, List.mem_flatMap]
  grind

theorem inRanges_append :
    InRanges (ranges ++ others) x ↔ InRanges ranges x ∨ InRanges others x := by
  simp only [InRanges, List.mem_append, or_and_right, exists_or]

theorem testBit_bits (ranges : List (Nat × Nat)) (x : Nat) :
    (bits ranges).testBit x = true ↔ InRanges ranges x := by
  induction ranges with
  | nil => simp [bits, InRanges]
  | cons r ranges ih =>
    have hrange : (((1 <<< (r.2 + 1 - r.1)) - 1) <<< r.1).testBit x = true ↔
        r.1 ≤ x ∧ x ≤ r.2 := by
      rw [Nat.testBit_shiftLeft, Nat.one_shiftLeft, Nat.testBit_two_pow_sub_one, Bool.and_eq_true,
        decide_eq_true_eq, decide_eq_true_eq]
      omega
    have hrest : (bits (r :: ranges)) = ((1 <<< (r.2 + 1 - r.1)) - 1) <<< r.1 ||| bits ranges := rfl
    rw [hrest, Nat.testBit_or, Bool.or_eq_true, hrange, ih, inRanges_cons]

/-- Ranges whose number adds no bit to that of others add no code point to them. -/
theorem inRanges_of_bits (h : bits ranges ||| bits others = bits others)
    (hx : InRanges ranges x) : InRanges others x := by
  rw [← testBit_bits] at hx ⊢
  rw [← h, Nat.testBit_or, hx, Bool.true_or]

/-- Ranges whose numbers have no bit in common have no code point in common. -/
theorem not_inRanges_of_bits (h : bits ranges &&& bits others = 0) (hx : InRanges ranges x) :
    ¬ InRanges others x := by
  intro hother
  rw [← testBit_bits] at hx hother
  have hboth : (bits ranges &&& bits others).testBit x = true := by
    rw [Nat.testBit_and, hx, hother]
    rfl
  rw [h, Nat.zero_testBit] at hboth
  cases hboth

theorem CodePointSet.inRanges_of_mem {s : CodePointSet} {c : Char} (h : s.mem c = true) :
    InRanges s.ranges.toList c.toNat := by
  rw [CodePointSet.mem] at h
  split at h
  · cases h
  · next first last hfound =>
    obtain ⟨hmem, hfirst⟩ := of_lastAtMost? hfound
    exact ⟨_, hmem.val, hfirst, of_decide_eq_true h⟩

end YamlListing.Unicode

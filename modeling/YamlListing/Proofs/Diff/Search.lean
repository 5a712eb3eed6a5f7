import YamlListing.Proofs.Diff.Reach

set_option autoImplicit false

/-! # The search finds a shortest script

The invariant of the search is `Ready v d`: before step `d` the table `v` holds the furthest points
of step `d - 1`. From it `furthest?_step` says once what a step does on a diagonal, where it comes
from included; the forward search (`search?_eq_some`) and the way back (`backtrack?_eq_some`) both
follow from that. Main statement: `searchScript?_eq_some`, the search stays inside its tables and
finds a script, and no fewer changes lead to the end of both sides. -/

namespace YamlListing

variable {α : Type}

/-! ## The table -/

namespace Frontier

/-- A table that has a cell for each of its diagonals. -/
def IsFull (v : Frontier) : Prop := v.cells.size = 2 * v.reach + 2

theorem isFull_start (reach : Nat) : (start reach).IsFull := by simp [IsFull, start]

theorem cell?_eq_some {v : Frontier} (hv : v.IsFull) {k : Int} (h : -v.reach ≤ k)
    (h' : k ≤ v.reach + 1) : v.cell? k = some (k + v.reach).toNat := by
  unfold IsFull at hv
  rw [cell?, if_neg (by omega), if_pos (by omega)]

theorem cell?_lt {v : Frontier} {k : Int} {i : Nat} (h : v.cell? k = some i) :
    i < v.cells.size ∧ (i : Int) = k + v.reach := by
  unfold cell? at h
  split at h
  · cases h
  · split at h
    · cases h
      omega
    · cases h

theorem get?_start {reach : Nat} {k : Int} (h : -(reach : Int) ≤ k) (h' : k ≤ reach + 1) :
    (start reach).get? k = some 0 := by
  rw [get?, cell?_eq_some (isFull_start reach) h h', Option.bind_some]
  have hlt : (k + reach).toNat < 2 * reach + 2 := by omega
  simp [start, hlt]

/-- Writing a cell of the table changes that cell and no other. -/
theorem set?_eq_some {v : Frontier} (hv : v.IsFull) {k : Int} (h : -v.reach ≤ k)
    (h' : k ≤ v.reach + 1) (x : Nat) :
    ∃ v', v.set? k x = some v' ∧ v'.IsFull ∧ v'.reach = v.reach ∧
      ∀ j, v'.get? j = if j = k then some x else v.get? j := by
  have hk := cell?_eq_some hv h h'
  refine ⟨{ v with cells := v.cells.setIfInBounds (k + v.reach).toNat x }, ?_, ?_, rfl, ?_⟩
  · rw [set?, hk, Option.map_some]
  · simpa [IsFull] using hv
  · intro j
    have hcell : Frontier.cell? { v with cells := v.cells.setIfInBounds (k + v.reach).toNat x } j
        = v.cell? j := by simp [cell?]
    rw [get?, get?, hcell]
    cases hj : v.cell? j with
    | none =>
        have hjk : j ≠ k := by
          intro he
          rw [he, hk] at hj
          cases hj
        simp [hjk]
    | some i =>
        obtain ⟨hi, hij⟩ := cell?_lt hj
        rw [Option.bind_some, Option.bind_some, Array.getElem?_setIfInBounds]
        by_cases hjk : j = k
        · have hik : (k + v.reach).toNat = i := by omega
          rw [if_pos hik, if_pos hjk, if_pos (hik ▸ hi)]
        · rw [if_neg (by omega), if_neg hjk]

end Frontier

/-! ## What a step does -/

/-- Before step `d` the table holds the furthest points of the step before. The first step starts
    from a cell that is zero. -/
def Ready (a b : List α) (v : Frontier) : Nat → Prop
  | 0 => v.get? 1 = some 0
  | d + 1 => ∀ k ∈ diagonals d, ∃ x, v.get? k = some x ∧ IsFurthest a b d k x

/-- Where the furthest point of step `d` on a diagonal comes from. -/
inductive Step (a b : List α) (v : Frontier) : Nat → Int → Nat → Prop
  | first {n : Nat} (hv : v.get? 1 = some 0) (hn : AgreeFor a b 0 0 n) : Step a b v 0 0 n
  | insertion {d : Nat} {k : Int} {p q n : Nat} (hk : v.byInsertion? (d + 1) k = some true)
      (hv : v.get? (k + 1) = some p) (hp : IsFurthest a b d (k + 1) p) (hq : (p : Int) - q = k + 1)
      (hn : AgreeFor a b p (q + 1) n) : Step a b v (d + 1) k (p + n)
  | deletion {d : Nat} {k : Int} {p q n : Nat} (hk : v.byInsertion? (d + 1) k = some false)
      (hv : v.get? (k - 1) = some p) (hp : IsFurthest a b d (k - 1) p) (hq : (p : Int) - q = k - 1)
      (hn : AgreeFor a b (p + 1) q n) : Step a b v (d + 1) k (p + 1 + n)

/-- Which of the two diagonals beside it a step comes from: the one that has the furthest start. -/
theorem byInsertion?_eq_some {a b : List α} {v : Frontier} {d : Nat} {k : Int}
    (h : Ready a b v (d + 1)) (hk : k ∈ diagonals (d + 1)) :
    (v.byInsertion? (d + 1) k = some true ∧ ∃ p, v.get? (k + 1) = some p ∧
      IsFurthest a b d (k + 1) p ∧
      ∀ p' q' : Nat, Reaches a b d p' q' → (p' : Int) - q' = k - 1 → p' < p) ∨
    (v.byInsertion? (d + 1) k = some false ∧ ∃ p, v.get? (k - 1) = some p ∧
      IsFurthest a b d (k - 1) p ∧
      ∀ p' q' : Nat, Reaches a b d p' q' → (p' : Int) - q' = k + 1 → p' ≤ p) := by
  rw [mem_diagonals] at hk
  by_cases hlow : k = -((d + 1 : Nat) : Int)
  · obtain ⟨p, hv, hp⟩ := h (k + 1) (mem_diagonals.2 (by omega))
    refine Or.inl ⟨by rw [Frontier.byInsertion?, if_pos hlow], p, hv, hp, ?_⟩
    intro p' q' hr hd
    have := mem_diagonals.1 hr.diagonal
    omega
  · by_cases hhigh : k = ((d + 1 : Nat) : Int)
    · obtain ⟨p, hv, hp⟩ := h (k - 1) (mem_diagonals.2 (by omega))
      refine Or.inr ⟨by rw [Frontier.byInsertion?, if_neg hlow, if_pos hhigh], p, hv, hp, ?_⟩
      intro p' q' hr hd
      have := mem_diagonals.1 hr.diagonal
      omega
    · obtain ⟨p, hv, hp⟩ := h (k - 1) (mem_diagonals.2 (by omega))
      obtain ⟨p', hv', hp'⟩ := h (k + 1) (mem_diagonals.2 (by omega))
      have hby : v.byInsertion? (d + 1) k = some (decide (p < p')) := by
        rw [Frontier.byInsertion?, if_neg hlow, if_neg hhigh, hv, hv']
        rfl
      by_cases hlt : p < p'
      · refine Or.inl ⟨by rw [hby, decide_eq_true hlt], p', hv', hp', ?_⟩
        intro x y hr hd
        exact Nat.lt_of_le_of_lt (hp.furthest x y hr hd) hlt
      · refine Or.inr ⟨by rw [hby, decide_eq_false hlt], p, hv, hp, ?_⟩
        intro x y hr hd
        exact Nat.le_trans (hp'.furthest x y hr hd) (Nat.not_lt.1 hlt)

/-- A step finds the furthest point of each of its diagonals. -/
theorem furthest?_step [DecidableEq α] {a b : List α} {v : Frontier} {d : Nat} {k : Int}
    (h : Ready a b v d) (hk : k ∈ diagonals d) :
    ∃ x, furthest? a.toArray b.toArray v d k = some x ∧ IsFurthest a b d k x ∧
      Step a b v d k x := by
  cases d with
  | zero =>
      obtain rfl : k = 0 := by
        have := mem_diagonals.1 hk
        omega
      have hv : v.get? 1 = some 0 := h
      obtain ⟨n, hn, hag, hf⟩ := IsFurthest.ofSlide (k := 0) (s := 0) (t := 0)
        ⟨[], .start, rfl⟩ rfl (a := a) (b := b) (d := 0) (by
          intro x' y' hr _
          obtain ⟨s, hs, h0⟩ := hr
          rcases hs.lastChange with ⟨_, rfl, hag⟩ | ⟨d, p, q, n, hd, _⟩
          · exact ⟨0, 0, x', Nat.le_refl 0, by omega, by omega, hag⟩
          · omega)
      rw [Nat.zero_add] at hn hf
      exact ⟨n, by simpa [furthest?, Frontier.byInsertion?, hv] using hn, hf, .first hv hag⟩
  | succ d =>
      rcases byInsertion?_eq_some h hk with ⟨hby, p, hv, hp, hbelow⟩ | ⟨hby, p, hv, hp, habove⟩
      · obtain ⟨q, hq, hr⟩ := hp.reaches
        obtain ⟨n, hn, hag, hf⟩ :=
          IsFurthest.ofSlide (k := k) hr.insert (by omega) fun x' y' hr' hd =>
          hr'.beforeKeeps hd hbelow hp.furthest
        refine ⟨p + n, ?_, hf, .insertion hby hv hp hq hag⟩
        have hy : (p : Int) - k = q + 1 := by omega
        simpa [furthest?, hby, hv, hy] using hn
      · obtain ⟨q, hq, hr⟩ := hp.reaches
        obtain ⟨n, hn, hag, hf⟩ :=
          IsFurthest.ofSlide (k := k) hr.delete (by omega) fun x' y' hr' hd =>
          hr'.beforeKeeps hd (fun p' q' h' h'' => Nat.succ_le_succ (hp.furthest p' q' h' h''))
            fun p' q' h' h'' => Nat.le_succ_of_le (habove p' q' h' h'')
        refine ⟨p + 1 + n, ?_, hf, .deletion hby hv hp hq hag⟩
        have hy : (p : Int) + 1 - k = q := by omega
        simpa [furthest?, hby, hv, hy] using hn

/-! ## The forward search -/

/-- Writing a diagonal of step `d` leaves the cells that the step reads. -/
theorem Ready.ofSet {a b : List α} {v v' : Frontier} {d x : Nat} {k : Int} (h : Ready a b v d)
    (hk : k ∈ diagonals d) (hget : ∀ j, v'.get? j = if j = k then some x else v.get? j) :
    Ready a b v' d := by
  rw [mem_diagonals] at hk
  cases d with
  | zero =>
      show v'.get? 1 = some 0
      rw [hget, if_neg (by omega)]
      exact h
  | succ d =>
      intro j hj
      have hjk := mem_diagonals.1 hj
      rw [hget, if_neg (by omega)]
      exact h j hj

theorem isEnd_toArray {a b : List α} {k : Int} {x y : Nat} (h : (x : Int) - y = k) :
    isEnd a.toArray b.toArray k x = true ↔ a.length ≤ x ∧ b.length ≤ y := by
  simp only [isEnd, List.size_toArray, Bool.and_eq_true, decide_eq_true_eq]
  omega

/-- What a step leaves behind: either it met the end at a furthest point, or the table holds the
    furthest points of all its diagonals and none of them is the end. -/
theorem advance?_eq_some [DecidableEq α] {a b : List α} {d : Nat} {ks : List Int} {v : Frontier}
    (hks : ∀ k ∈ ks, k ∈ diagonals d) (hd : d ≤ v.reach) (hfull : v.IsFull) (h : Ready a b v d) :
    ∃ v' isOver, advance? a.toArray b.toArray d v ks = some (v', isOver) ∧ v'.IsFull ∧
      v'.reach = v.reach ∧
      (isOver = true → ∃ k ∈ ks, ∃ x, IsFurthest a b d k x ∧
        isEnd a.toArray b.toArray k x = true) ∧
      (isOver = false → (∀ j, j ∉ ks → v'.get? j = v.get? j) ∧
        ∀ k ∈ ks, ∃ x, v'.get? k = some x ∧ IsFurthest a b d k x ∧
          isEnd a.toArray b.toArray k x = false) := by
  induction ks generalizing v with
  | nil => exact ⟨v, false, rfl, hfull, rfl, by simp, by simp⟩
  | cons k ks ih =>
      have hk := hks k (List.mem_cons_self ..)
      obtain ⟨x, hx, hf, -⟩ := furthest?_step h hk
      have hb := mem_diagonals.1 hk
      obtain ⟨v₁, hset, hfull₁, hreach₁, hget⟩ :=
        Frontier.set?_eq_some hfull (k := k) (by omega) (by omega) x
      by_cases hend : isEnd a.toArray b.toArray k x = true
      · refine ⟨v₁, true, by simp [advance?, hx, hset, hend], hfull₁, hreach₁, fun _ => ?_, by simp⟩
        exact ⟨k, List.mem_cons_self .., x, hf, hend⟩
      · obtain ⟨v', isOver, hadv, hfull', hreach', hover, hgo⟩ :=
          ih (fun j hj => hks j (List.mem_cons_of_mem _ hj)) (by omega) hfull₁ (h.ofSet hk hget)
        refine ⟨v', isOver, by simp [advance?, hx, hset, hend, hadv], hfull', by omega, ?_, ?_⟩
        · intro ho
          obtain ⟨j, hj, hj'⟩ := hover ho
          exact ⟨j, List.mem_cons_of_mem _ hj, hj'⟩
        · intro ho
          obtain ⟨hframe, hall⟩ := hgo ho
          constructor
          · intro j hj
            rw [List.mem_cons, not_or] at hj
            rw [hframe j hj.2, hget, if_neg hj.1]
          · intro j hj
            by_cases hjks : j ∈ ks
            · exact hall j hjks
            · obtain rfl : j = k := by simpa [hjks] using hj
              exact ⟨x, by rw [hframe j hjks, hget, if_pos rfl], hf, by simpa using hend⟩

/-- The saved tables, that of the last step first, are each ready for their step. -/
def AllReady (a b : List α) : List Frontier → Prop
  | [] => True
  | v :: saved => Ready a b v saved.length ∧ AllReady a b saved

/-- Deleting all lines of the origin and inserting all of the tip leads to the end. -/
theorem reaches_end (a b : List α) : Reaches a b (a.length + b.length) a.length b.length := by
  obtain ⟨s, hs, hd⟩ := exists_trail_of_common (List.nil_sublist a) (List.nil_sublist b)
  exact ⟨s, hs, by simpa using hd⟩

/-- The search ends at the first step that can lead to the end of both sides, and on the diagonal
    where they both end. -/
theorem search?_eq_some [DecidableEq α] {a b : List α} {steps d : Nat} {v : Frontier}
    {saved : List Frontier} (hlen : saved.length = d) (hsaved : AllReady a b saved)
    (hfull : v.IsFull) (hreach : v.reach = a.length + b.length) (h : Ready a b v d)
    (hmin : ∀ d', Reaches a b d' a.length b.length → d ≤ d')
    (hsteps : d + steps = a.length + b.length + 1) :
    ∃ v' saved', search? a.toArray b.toArray steps d v saved = some (v' :: saved') ∧
      AllReady a b (v' :: saved') ∧
      IsFurthest a b saved'.length ((a.length : Int) - b.length) a.length ∧
      ∀ d', Reaches a b d' a.length b.length → saved'.length ≤ d' := by
  induction steps generalizing d v saved with
  | zero =>
      have := hmin _ (reaches_end a b)
      omega
  | succ steps ih =>
      obtain ⟨next, isOver, hadv, hfull', hreach', hover, hgo⟩ :=
        advance?_eq_some (fun k hk => hk) (by omega) hfull h
      cases isOver with
      | true =>
          obtain ⟨k, -, x, hf, hend⟩ := hover rfl
          obtain ⟨y, hxy, hr⟩ := hf.reaches
          obtain ⟨hx, hy⟩ := (isEnd_toArray hxy).1 hend
          obtain ⟨d', hr', hle⟩ := hr.clip
          rw [Nat.min_eq_right hx, Nat.min_eq_right hy] at hr'
          -- A point outside both sides would have led to the end by fewer changes.
          have hd' := hmin d' hr'
          obtain rfl : x = a.length := by omega
          obtain rfl : y = b.length := by omega
          refine ⟨v, saved, by simp [search?, hadv], ⟨hlen ▸ h, hsaved⟩, ?_, hlen ▸ hmin⟩
          rw [hlen, hxy]
          exact hf
      | false =>
          obtain ⟨-, hall⟩ := hgo rfl
          have hnot : ¬ Reaches a b d a.length b.length := by
            intro hr
            obtain ⟨x, -, hf, hend⟩ := hall _ hr.diagonal
            obtain ⟨y, hxy, -⟩ := hf.reaches
            have hx := hf.furthest _ _ hr rfl
            have := (isEnd_toArray (a := a) (b := b) hxy).2 ⟨hx, by omega⟩
            rw [hend] at this
            cases this
          have hmin' : ∀ d', Reaches a b d' a.length b.length → d + 1 ≤ d' := by
            intro d' hr
            rcases Nat.lt_or_eq_of_le (hmin d' hr) with hlt | rfl
            · exact hlt
            · exact absurd hr hnot
          have hlen' : (v :: saved).length = d + 1 := by rw [List.length_cons, hlen]
          have hready : Ready a b next (d + 1) :=
            fun k hk => (hall k hk).imp fun x hx => ⟨hx.1, hx.2.1⟩
          obtain ⟨v', saved', hs, hrest⟩ :=
            ih hlen' ⟨hlen ▸ h, hsaved⟩ hfull' (by omega) hready hmin' (by omega)
          exact ⟨v', saved', by simpa [search?, hadv] using hs, hrest⟩

/-! ## The way back -/

/-- A furthest point was led to by the step that finds it. -/
theorem IsFurthest.step [DecidableEq α] {a b : List α} {v : Frontier} {d x : Nat} {k : Int}
    (hf : IsFurthest a b d k x) (h : Ready a b v d) : Step a b v d k x := by
  obtain ⟨y, rfl, hr⟩ := hf.reaches
  obtain ⟨x', -, hf', hstep⟩ := furthest?_step h hr.diagonal
  obtain rfl := hf.unique hf'
  exact hstep

/-- One step of the way back, given where it comes from. -/
theorem backtrack?_cons {v : Frontier} {saved : List Frontier} {x x' p : Nat} {y y' k from_ q : Int}
    {isInsertion : Bool} {keeps script : List Edit} (hk : (x : Int) - y = k)
    (hby : v.byInsertion? saved.length k = some isInsertion)
    (hfrom : (if isInsertion then k + 1 else k - 1) = from_) (hv : v.get? from_ = some p)
    (hq : (p : Int) - from_ = q) (hback : keepsBack p q x y = (keeps, x', y'))
    (hs : backtrack? saved p q = some script) :
    backtrack? (v :: saved) x y = some (keeps ++
      (if saved.isEmpty then [] else if x' = p then [.insert y'.toNat] else [.delete x']) ++
      script) := by
  simp only [backtrack?, hk, hby, Option.bind_eq_bind, Option.bind_some, hfrom, hv, hq, hback, hs,
    Option.pure_def]

/-- On the way back, exactly the lines kept after a step's change are kept. -/
theorem keepsBack_eq {a b : List α} (fromX : Nat) (fromY : Int) {x y n : Nat}
    (h : (fromX = x ∧ fromY < y) ∨ (fromX < x ∧ fromY = y)) (hn : AgreeFor a b x y n) :
    ∃ keeps, keepsBack fromX fromY (x + n) ((y + n : Nat) : Int) = (keeps, x, (y : Int)) ∧
      ∀ s, Trail a b s x y → Trail a b (keeps ++ s) (x + n) (y + n) ∧
        Edit.distance (keeps ++ s) = Edit.distance s := by
  induction n with
  | zero =>
      refine ⟨[], ?_, fun s hs => ⟨hs, rfl⟩⟩
      cases x with
      | zero => rfl
      | succ x =>
          have hstop : ¬(fromX < x + 1 ∧ fromY < y) := by omega
          simp only [Nat.add_zero, keepsBack, if_neg hstop]
  | succ n ih =>
      obtain ⟨keeps, hk, ht⟩ := ih fun i hi => hn i (by omega)
      obtain ⟨l, ha, hb⟩ := hn n (Nat.lt_succ_self n)
      refine ⟨.keep (x + n + 1) (y + n + 1) :: keeps, ?_, ?_⟩
      · rw [← Nat.add_assoc, keepsBack, if_pos (by omega)]
        rw [show ((y + (n + 1) : Nat) : Int) - 1 = ((y + n : Nat) : Int) by omega, hk]
        rfl
      · intro s hs
        obtain ⟨ht, hd⟩ := ht s hs
        exact ⟨ht.keep ha hb, by simpa [Edit.isChange] using hd⟩

/-- The way back from a furthest point follows the steps that led there. -/
theorem backtrack?_eq_some [DecidableEq α] {a b : List α} {saved : List Frontier} {v : Frontier}
    {x y : Nat} (hready : AllReady a b (v :: saved))
    (hf : IsFurthest a b saved.length ((x : Int) - y) x) :
    ∃ s, backtrack? (v :: saved) x y = some s ∧ Trail a b s x y ∧
      Edit.distance s = saved.length := by
  induction saved generalizing v x y with
  | nil =>
      have hstep := hf.step hready.1
      generalize hk : (x : Int) - y = k at hstep
      cases hstep with
      | first hv hn =>
          obtain rfl : y = x := by omega
          obtain ⟨keeps, hback, ht⟩ := keepsBack_eq 0 (-1) (by omega) hn
          rw [Nat.zero_add] at hback
          obtain ⟨htrail, hd⟩ := ht [] .start
          refine ⟨keeps, ?_, by simpa using htrail, by simpa using hd⟩
          simp [backtrack?, Frontier.byInsertion?, hv, hback]
  | cons w saved ih =>
      have hstep := hf.step hready.1
      generalize hk : (x : Int) - y = k at hstep
      rw [List.length_cons] at hstep
      cases hstep with
      | @insertion _ _ p q n hby hv hp hq hn =>
          obtain rfl : y = q + 1 + n := by omega
          obtain ⟨keeps, hback, ht⟩ := keepsBack_eq p q (by omega) hn
          obtain ⟨s, hs, htrail, hd⟩ := ih hready.2 (by rw [hq]; exact hp)
          obtain ⟨htrail', hd'⟩ := ht _ htrail.insert
          refine ⟨keeps ++ .insert (q + 1) :: s, ?_, htrail', ?_⟩
          · have hq' : (p : Int) - (k + 1) = q := by omega
            rw [backtrack?_cons hk hby (if_pos rfl) hv hq' hback hs]
            simp
          · rw [hd', Edit.distance_cons, hd]
            rfl
      | @deletion _ _ p q n hby hv hp hq hn =>
          obtain rfl : y = q + n := by omega
          obtain ⟨keeps, hback, ht⟩ := keepsBack_eq p q (by omega) hn
          obtain ⟨s, hs, htrail, hd⟩ := ih hready.2 (by rw [hq]; exact hp)
          obtain ⟨htrail', hd'⟩ := ht _ htrail.delete
          refine ⟨keeps ++ .delete (p + 1) :: s, ?_, htrail', ?_⟩
          · have hq' : (p : Int) - (k - 1) = q := by omega
            rw [backtrack?_cons hk hby (if_neg Bool.false_ne_true) hv hq' hback hs]
            simp
          · rw [hd', Edit.distance_cons, hd]
            rfl

/-- The search stays inside its tables and finds a script, and no fewer changes lead to the end of
    both sides. -/
theorem searchScript?_eq_some [DecidableEq α] (a b : List α) :
    ∃ s, searchScript? a.toArray b.toArray = some s ∧ IsScript a b s ∧
      ∀ d, Reaches a b d a.length b.length → Edit.distance s ≤ d := by
  by_cases h0 : a.length + b.length = 0
  · obtain rfl : a = [] := List.length_eq_zero_iff.1 (by omega)
    obtain rfl : b = [] := List.length_eq_zero_iff.1 (by omega)
    exact ⟨[], rfl, isScript_iff_trail.2 .start, fun d _ => Nat.zero_le d⟩
  · have hready : Ready a b (Frontier.start (a.length + b.length)) 0 :=
      Frontier.get?_start (by omega) (by omega)
    obtain ⟨v, saved, hsearch, hall, hf, hmin⟩ := search?_eq_some List.length_nil trivial
      (Frontier.isFull_start _) rfl hready (fun d _ => Nat.zero_le d) (Nat.zero_add _)
    obtain ⟨s, hback, htrail, hd⟩ := backtrack?_eq_some hall hf
    refine ⟨s.reverse, ?_, isScript_iff_trail.2 (by rwa [List.reverse_reverse]), ?_⟩
    · simp only [searchScript?, List.size_toArray, if_neg h0, hsearch, Option.bind_eq_bind,
        Option.bind_some, hback, Option.pure_def]
    · intro d hr
      rw [Edit.distance_reverse, hd]
      exact hmin d hr

end YamlListing

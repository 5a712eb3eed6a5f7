import YamlListing.Diff.Script

set_option autoImplicit false

/-! # Scripts, trails and common subsequences

`IsScript a b script` says what an edit script between two lists of lines is: read in order, it
consumes each line of both sides once, and it keeps only lines that are equal. A `Trail` is a script
on its way, with the point that it has come to; as in the search it may pass the end of one side.
Scripts are the trails to the point where both sides end (`isScript_iff_trail`).

The lines that a script keeps are a common subsequence (`Trail.exists_common`), and every common
subsequence is what some script keeps (`exists_trail_of_common`). So a script with few changes and a
long common subsequence are the same thing. -/

namespace YamlListing

variable {α : Type}

namespace Edit

/-- The line of the origin that a step consumes. -/
def origin? : Edit → Option Nat
  | keep origin _ => some origin
  | delete origin => some origin
  | insert _ => none

/-- The line of the tip that a step consumes. -/
def tip? : Edit → Option Nat
  | keep _ tip => some tip
  | delete _ => none
  | insert tip => some tip

@[simp] theorem origin?_flip (e : Edit) : e.flip.origin? = e.tip? := by cases e <;> rfl

@[simp] theorem tip?_flip (e : Edit) : e.flip.tip? = e.origin? := by cases e <;> rfl

@[simp] theorem origin?_shift (n : Nat) (e : Edit) :
    (e.shift n).origin? = e.origin?.map (· + n) := by cases e <;> rfl

@[simp] theorem tip?_shift (n : Nat) (e : Edit) :
    (e.shift n).tip? = e.tip?.map (· + n) := by cases e <;> rfl

@[simp] theorem isChange_shift (n : Nat) (e : Edit) : (e.shift n).isChange = e.isChange := by
  cases e <;> rfl

@[simp] theorem distance_nil : distance [] = 0 := rfl

@[simp] theorem distance_cons (e : Edit) (s : List Edit) :
    distance (e :: s) = distance s + (if e.isChange then 1 else 0) := List.countP_cons

@[simp] theorem distance_append (s t : List Edit) :
    distance (s ++ t) = distance s + distance t := List.countP_append

@[simp] theorem distance_reverse (s : List Edit) : distance s.reverse = distance s :=
  List.countP_reverse

@[simp] theorem distance_map_flip (s : List Edit) : distance (s.map flip) = distance s := by
  simp [distance, List.countP_map, Function.comp_def]

@[simp] theorem distance_map_shift (n : Nat) (s : List Edit) :
    distance (s.map (shift n)) = distance s := by
  simp [distance, List.countP_map, Function.comp_def]

end Edit

/-- An edit script that turns the lines `a` into the lines `b`. -/
structure IsScript (a b : List α) (script : List Edit) : Prop where
  /-- The steps consume the lines of the origin in order. -/
  origins : script.filterMap Edit.origin? = List.range' 1 a.length
  /-- The steps consume the lines of the tip in order. -/
  tips : script.filterMap Edit.tip? = List.range' 1 b.length
  /-- Only equal lines are kept. -/
  kept : ∀ o t, .keep o t ∈ script → ∃ l, a[o - 1]? = some l ∧ b[t - 1]? = some l

/-- A subsequence of two lists of lines, as long as there is one. -/
structure IsLongestCommon (a b c : List α) : Prop where
  left : c.Sublist a
  right : c.Sublist b
  longest : ∀ c' : List α, c'.Sublist a → c'.Sublist b → c'.length ≤ c.length

/-- An edit script with as few changes as any. -/
structure IsShortest (a b : List α) (script : List Edit) : Prop extends IsScript a b script where
  shortest : ∀ other, IsScript a b other → Edit.distance script ≤ Edit.distance other

/-- A script on its way, its last step first, and the numbers of lines that it has consumed. Steps
    may delete or insert lines past the end of a side. -/
inductive Trail (a b : List α) : List Edit → Nat → Nat → Prop
  | start : Trail a b [] 0 0
  | delete {s : List Edit} {x y : Nat} (h : Trail a b s x y) :
      Trail a b (.delete (x + 1) :: s) (x + 1) y
  | insert {s : List Edit} {x y : Nat} (h : Trail a b s x y) :
      Trail a b (.insert (y + 1) :: s) x (y + 1)
  | keep {s : List Edit} {x y : Nat} {l : α} (h : Trail a b s x y) (ha : a[x]? = some l)
      (hb : b[y]? = some l) : Trail a b (.keep (x + 1) (y + 1) :: s) (x + 1) (y + 1)

/-! ## Scripts are trails to the end -/

theorem Trail.origins {a b : List α} {s : List Edit} {x y : Nat} (h : Trail a b s x y) :
    s.reverse.filterMap Edit.origin? = List.range' 1 x := by
  induction h with
  | start => rfl
  | delete _ ih | keep _ _ _ ih =>
      rw [List.reverse_cons, List.filterMap_append, ih, List.range'_1_concat]
      simp [Edit.origin?, Nat.add_comm]
  | insert _ ih => simp [List.filterMap_append, ih, Edit.origin?]

theorem Trail.tips {a b : List α} {s : List Edit} {x y : Nat} (h : Trail a b s x y) :
    s.reverse.filterMap Edit.tip? = List.range' 1 y := by
  induction h with
  | start => rfl
  | insert _ ih | keep _ _ _ ih =>
      rw [List.reverse_cons, List.filterMap_append, ih, List.range'_1_concat]
      simp [Edit.tip?, Nat.add_comm]
  | delete _ ih => simp [List.filterMap_append, ih, Edit.tip?]

theorem Trail.kept {a b : List α} {s : List Edit} {x y : Nat} (h : Trail a b s x y) (o t : Nat)
    (hm : .keep o t ∈ s) : ∃ l, a[o - 1]? = some l ∧ b[t - 1]? = some l := by
  induction h with
  | start => simp at hm
  | delete _ ih | insert _ ih => exact ih (by simpa using hm)
  | @keep s x y l _ ha hb ih =>
      rcases List.mem_cons.1 hm with he | hm
      · obtain ⟨rfl, rfl⟩ := Edit.keep.inj he
        exact ⟨l, ha, hb⟩
      · exact ih hm

/-- A list of consecutive numbers that ends in `n` was one shorter before. -/
theorem range'_eq_concat {l : List Nat} {n x : Nat} (h : l ++ [n] = List.range' 1 x) :
    ∃ x', x = x' + 1 ∧ n = x' + 1 ∧ l = List.range' 1 x' := by
  cases x with
  | zero => simp at h
  | succ x =>
      rw [List.range'_1_concat] at h
      obtain ⟨hl, hn⟩ := List.append_inj' h rfl
      exact ⟨x, rfl, by simpa [Nat.add_comm] using hn, hl⟩

/-- Steps that consume the first lines of both sides in order are a trail. -/
theorem trail_of_origins_tips {a b : List α} (s : List Edit) (x y : Nat)
    (ho : s.reverse.filterMap Edit.origin? = List.range' 1 x)
    (ht : s.reverse.filterMap Edit.tip? = List.range' 1 y)
    (hk : ∀ o t, .keep o t ∈ s → ∃ l, a[o - 1]? = some l ∧ b[t - 1]? = some l) :
    Trail a b s x y := by
  induction s generalizing x y with
  | nil =>
      have hx : x = 0 := by simpa using congrArg List.length ho.symm
      have hy : y = 0 := by simpa using congrArg List.length ht.symm
      rw [hx, hy]
      exact .start
  | cons e s ih =>
      have hk' : ∀ o t, .keep o t ∈ s → ∃ l, a[o - 1]? = some l ∧ b[t - 1]? = some l :=
        fun o t h => hk o t (List.mem_cons_of_mem _ h)
      rw [List.reverse_cons, List.filterMap_append] at ho ht
      cases e with
      | delete o =>
          obtain ⟨x', rfl, rfl, ho'⟩ := range'_eq_concat ho
          exact .delete (ih x' y ho' (by simpa [Edit.tip?, List.filterMap_cons] using ht) hk')
      | insert t =>
          obtain ⟨y', rfl, rfl, ht'⟩ := range'_eq_concat ht
          exact .insert (ih x y' (by simpa [Edit.origin?, List.filterMap_cons] using ho) ht' hk')
      | keep o t =>
          obtain ⟨x', rfl, rfl, ho'⟩ := range'_eq_concat ho
          obtain ⟨y', rfl, rfl, ht'⟩ := range'_eq_concat ht
          obtain ⟨l, ha, hb⟩ := hk _ _ (List.mem_cons_self ..)
          exact .keep (ih x' y' ho' ht' hk') ha hb

theorem isScript_iff_trail {a b : List α} {s : List Edit} :
    IsScript a b s ↔ Trail a b s.reverse a.length b.length := by
  constructor
  · intro h
    exact trail_of_origins_tips _ _ _ (by simpa using h.origins) (by simpa using h.tips)
      (fun o t hm => h.kept o t (List.mem_reverse.1 hm))
  · intro h
    exact ⟨by simpa using h.origins, by simpa using h.tips,
      fun o t hm => h.kept o t (List.mem_reverse.2 hm)⟩

/-! ## Kept lines are common subsequences -/

/-- One more line extends what was taken of a side. -/
theorem sublist_take_succ {a c : List α} {x : Nat} (h : c.Sublist (a.take x)) :
    c.Sublist (a.take (x + 1)) :=
  h.trans (List.take_sublist_take_left (Nat.le_succ x))

theorem concat_sublist_take_succ {a c : List α} {x : Nat} {l : α} (h : c.Sublist (a.take x))
    (ha : a[x]? = some l) : (c ++ [l]).Sublist (a.take (x + 1)) := by
  rw [List.take_add_one, ha]
  exact h.append (List.Sublist.refl [l])

/-- The lines that a trail keeps are a common subsequence. Each kept line is one line of both sides
    that no change accounts for. -/
theorem Trail.exists_common {a b : List α} {s : List Edit} {x y : Nat} (h : Trail a b s x y) :
    ∃ c : List α, c.Sublist (a.take x) ∧ c.Sublist (b.take y) ∧
      Edit.distance s + 2 * c.length = x + y := by
  induction h with
  | start => exact ⟨[], by simp, by simp, rfl⟩
  | delete _ ih =>
      obtain ⟨c, hca, hcb, hd⟩ := ih
      refine ⟨c, sublist_take_succ hca, hcb, ?_⟩
      simp only [Edit.distance_cons, Edit.isChange, if_true]
      omega
  | insert _ ih =>
      obtain ⟨c, hca, hcb, hd⟩ := ih
      refine ⟨c, hca, sublist_take_succ hcb, ?_⟩
      simp only [Edit.distance_cons, Edit.isChange, if_true]
      omega
  | @keep s x y l _ ha hb ih =>
      obtain ⟨c, hca, hcb, hd⟩ := ih
      refine ⟨c ++ [l], concat_sublist_take_succ hca ha, concat_sublist_take_succ hcb hb, ?_⟩
      simp only [Edit.distance_cons, Edit.isChange, List.length_append, List.length_singleton]
      simp
      omega

theorem IsScript.exists_common {a b : List α} {s : List Edit} (h : IsScript a b s) :
    ∃ c : List α, c.Sublist a ∧ c.Sublist b ∧
      Edit.distance s + 2 * c.length = a.length + b.length := by
  obtain ⟨c, hca, hcb, hd⟩ := (isScript_iff_trail.1 h).exists_common
  rw [List.take_length] at hca hcb
  exact ⟨c, hca, hcb, by simpa using hd⟩

theorem drop_succ_of_drop_cons {a a' : List α} {l : α} {x : Nat} (h : a.drop x = l :: a') :
    a.drop (x + 1) = a' ∧ a[x]? = some l := by
  constructor
  · rw [← List.tail_drop, h, List.tail_cons]
  · rw [← List.head?_drop, h, List.head?_cons]

/-- A trail that has consumed all of the origin goes on to insert what is left of the tip. -/
theorem Trail.insertRest {a b b' : List α} {s : List Edit} {x y m : Nat} (h : Trail a b s x y)
    (hm : m = y + b'.length) :
    ∃ s', Trail a b s' x m ∧ Edit.distance s' = Edit.distance s + b'.length := by
  induction b' generalizing s y with
  | nil => exact ⟨s, by simpa [hm] using h, rfl⟩
  | cons l b' ih =>
      obtain ⟨s', hs', hd⟩ := ih h.insert (by simpa [Nat.add_comm, Nat.add_left_comm] using hm)
      refine ⟨s', hs', ?_⟩
      simp only [hd, Edit.distance_cons, Edit.isChange, if_true, List.length_cons]
      omega

/-- A trail can be completed so that it keeps a given common subsequence of what is left. The
    induction follows the way the subsequence sits in the origin: a line that is passed over is
    deleted; before one that is taken, the lines of the tip up to it are inserted. -/
theorem Trail.complete {a b c a' b' : List α} {s : List Edit} {x y n m : Nat}
    (hca : c.Sublist a') (hcb : c.Sublist b') (h : Trail a b s x y) (ha : a.drop x = a')
    (hb : b.drop y = b') (hn : n = x + a'.length) (hm : m = y + b'.length) :
    ∃ s', Trail a b s' n m ∧
      Edit.distance s' + 2 * c.length = Edit.distance s + a'.length + b'.length := by
  induction hca generalizing b' s x y with
  | slnil =>
      obtain ⟨s', hs', hd⟩ := h.insertRest hm
      exact ⟨s', by simpa [hn] using hs', by simpa using hd⟩
  | cons l _ ih =>
      obtain ⟨s', hs', hd⟩ := ih hcb h.delete (drop_succ_of_drop_cons ha).1 hb
        (by simpa [Nat.add_comm, Nat.add_left_comm] using hn) hm
      refine ⟨s', hs', ?_⟩
      simp only [Edit.distance_cons, Edit.isChange, if_true, List.length_cons] at hd ⊢
      omega
  | @cons_cons c a' l _ ih =>
      induction b' generalizing s y with
      | nil => simp at hcb
      | cons l' b' ihb =>
          cases hcb with
          | cons _ hcb =>
              obtain ⟨s', hs', hd⟩ := ihb hcb h.insert (drop_succ_of_drop_cons hb).1
                (by simpa [Nat.add_comm, Nat.add_left_comm] using hm)
              refine ⟨s', hs', ?_⟩
              simp only [Edit.distance_cons, Edit.isChange, if_true, List.length_cons] at hd ⊢
              omega
          | cons_cons _ hcb =>
              obtain ⟨hxa, hla⟩ := drop_succ_of_drop_cons ha
              obtain ⟨hyb, hlb⟩ := drop_succ_of_drop_cons hb
              obtain ⟨s', hs', hd⟩ := ih hcb (h.keep hla hlb) hxa hyb
                (by simpa [Nat.add_comm, Nat.add_left_comm] using hn)
                (by simpa [Nat.add_comm, Nat.add_left_comm] using hm)
              refine ⟨s', hs', ?_⟩
              simp [Edit.isChange] at hd ⊢
              omega

/-- Every common subsequence is kept by some script. -/
theorem exists_trail_of_common {a b c : List α} (ha : c.Sublist a) (hb : c.Sublist b) :
    ∃ s, Trail a b s a.length b.length ∧
      Edit.distance s + 2 * c.length = a.length + b.length := by
  obtain ⟨s, hs, hd⟩ := Trail.complete ha hb .start rfl rfl (Nat.zero_add _).symm
    (Nat.zero_add _).symm
  exact ⟨s, hs, by simpa using hd⟩

end YamlListing

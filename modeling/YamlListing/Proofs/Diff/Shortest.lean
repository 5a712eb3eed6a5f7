import YamlListing.Proofs.Diff.Runs
import YamlListing.Proofs.Diff.Search

set_option autoImplicit false

/-! # Line diffs are shortest scripts

A script is as short as any if it has few enough changes to leave room for every common subsequence
(`KeepsMost`). Keeping common lines at both ends costs nothing: a common subsequence of the whole
has at most those lines more than one of the middle (`exists_common_middle`). Main statements:
`diffLines?_eq_some_isScript`, a line diff is a script in which deletions come first, and
`diffLines_isShortest`, no script has fewer changes. -/

namespace YamlListing

variable {α : Type}

/-- A script has few enough changes for each common subsequence to be among the lines it keeps. -/
def KeepsMost (a b : List α) (script : List Edit) : Prop :=
  ∀ c : List α, c.Sublist a → c.Sublist b →
    Edit.distance script + 2 * c.length ≤ a.length + b.length

theorem KeepsMost.isShortest {a b : List α} {script : List Edit} (hs : IsScript a b script)
    (h : KeepsMost a b script) : IsShortest a b script := by
  refine ⟨hs, ?_⟩
  intro other hother
  obtain ⟨c, hca, hcb, hd⟩ := hother.exists_common
  have := h c hca hcb
  omega

/-! ## The other side -/

theorem IsScript.flip {a b : List α} {script : List Edit} (h : IsScript b a script) :
    IsScript a b (script.map Edit.flip) where
  origins := by simpa [List.filterMap_map, Function.comp_def] using h.tips
  tips := by simpa [List.filterMap_map, Function.comp_def] using h.origins
  kept o t hm := by
    obtain ⟨e, he, hf⟩ := List.mem_map.1 hm
    cases e with
    | keep t' o' =>
        obtain ⟨rfl, rfl⟩ := Edit.keep.inj hf
        obtain ⟨l, hb, ha⟩ := h.kept _ _ he
        exact ⟨l, ha, hb⟩
    | delete o' => cases hf
    | insert t' => cases hf

theorem KeepsMost.flip {a b : List α} {script : List Edit} (h : KeepsMost b a script) :
    KeepsMost a b (script.map Edit.flip) := by
  intro c hca hcb
  rw [Edit.distance_map_flip, Nat.add_comm a.length]
  exact h c hcb hca

theorem KeepsMost.deletesFirst {a b : List α} {script : List Edit} (h : KeepsMost a b script) :
    KeepsMost a b (Edit.deletesFirst script) := by
  intro c hca hcb
  rw [Edit.distance_deletesFirst]
  exact h c hca hcb

/-! ## Common ends -/

theorem commonLength_spec [DecidableEq α] (a b : List α) :
    commonLength a b ≤ a.length ∧ commonLength a b ≤ b.length ∧
      a.take (commonLength a b) = b.take (commonLength a b) := by
  induction a generalizing b with
  | nil => simp [commonLength]
  | cons x a ih =>
      cases b with
      | nil => simp [commonLength]
      | cons y b =>
          rw [commonLength]
          by_cases hxy : x = y
          · obtain ⟨ha, hb, htake⟩ := ih b
            simp only [if_pos hxy, List.length_cons, List.take_succ_cons]
            exact ⟨by omega, by omega, by rw [hxy, htake]⟩
          · simp [if_neg hxy]

/-- Two lists of lines fall into common lines at both ends and what lies between. -/
theorem exists_common_ends [DecidableEq α] (a b : List α) :
    ∃ front back ma mb, a = front ++ ma ++ back ∧ b = front ++ mb ++ back ∧
      front.length = commonLength a b ∧
      back.length = commonLength (a.drop front.length).reverse (b.drop front.length).reverse := by
  obtain ⟨hfa, hfb, hfront⟩ := commonLength_spec a b
  have hlen : (a.take (commonLength a b)).length = commonLength a b := List.length_take_of_le hfa
  obtain ⟨hba, hbb, hback⟩ := commonLength_spec (a.drop (commonLength a b)).reverse
    (b.drop (commonLength a b)).reverse
  obtain ⟨n, hn⟩ : ∃ n, commonLength (a.drop (commonLength a b)).reverse
    (b.drop (commonLength a b)).reverse = n := ⟨_, rfl⟩
  rw [hn] at hba hbb hback
  rw [List.take_reverse, List.take_reverse, List.reverse_inj] at hback
  rw [List.length_reverse] at hba hbb
  refine ⟨a.take (commonLength a b),
    (a.drop (commonLength a b)).drop ((a.drop (commonLength a b)).length - n),
    (a.drop (commonLength a b)).take ((a.drop (commonLength a b)).length - n),
    (b.drop (commonLength a b)).take ((b.drop (commonLength a b)).length - n), ?_, ?_, hlen, ?_⟩
  · rw [List.append_assoc, List.take_append_drop, List.take_append_drop]
  · rw [hback, hfront, List.append_assoc, List.take_append_drop, List.take_append_drop]
  · rw [hlen, hn, List.length_drop]
    omega

/-! ## Keeping common ends -/

theorem filterMap_origin?_keeps (x y n : Nat) :
    (keeps x y n).filterMap Edit.origin? = List.range' (x + 1) n := by
  rw [keeps, List.filterMap_map, List.range'_eq_map_range]
  simp [Function.comp_def, Edit.origin?, Nat.add_right_comm]

theorem filterMap_tip?_keeps (x y n : Nat) :
    (keeps x y n).filterMap Edit.tip? = List.range' (y + 1) n := by
  rw [keeps, List.filterMap_map, List.range'_eq_map_range]
  simp [Function.comp_def, Edit.tip?, Nat.add_right_comm]

theorem mem_keeps {x y n o t : Nat} :
    .keep o t ∈ keeps x y n ↔ ∃ i < n, o = x + i + 1 ∧ t = y + i + 1 := by
  simp [keeps, eq_comm]

@[simp] theorem distance_keeps (x y n : Nat) : Edit.distance (keeps x y n) = 0 := by
  simp [keeps, Edit.distance, List.countP_map, Function.comp_def, Edit.isChange]

theorem filterMap_origin?_shift (m : Nat) (script : List Edit) :
    (script.map (Edit.shift m)).filterMap Edit.origin?
      = (script.filterMap Edit.origin?).map (m + ·) := by
  rw [List.filterMap_map, List.map_filterMap]
  simp [Nat.add_comm]

theorem filterMap_tip?_shift (m : Nat) (script : List Edit) :
    (script.map (Edit.shift m)).filterMap Edit.tip?
      = (script.filterMap Edit.tip?).map (m + ·) := by
  rw [List.filterMap_map, List.map_filterMap]
  simp [Nat.add_comm]

theorem IsScript.one_le {a b : List α} {script : List Edit} (h : IsScript a b script) {o t : Nat}
    (hm : .keep o t ∈ script) : 1 ≤ o ∧ 1 ≤ t := by
  have ho : o ∈ script.filterMap Edit.origin? := List.mem_filterMap.2 ⟨_, hm, rfl⟩
  have ht : t ∈ script.filterMap Edit.tip? := List.mem_filterMap.2 ⟨_, hm, rfl⟩
  rw [h.origins, List.mem_range'_1] at ho
  rw [h.tips, List.mem_range'_1] at ht
  exact ⟨ho.1, ht.1⟩

theorem getElem?_between {front ma back : List α} {j : Nat} {l : α} (h : ma[j]? = some l) :
    (front ++ ma ++ back)[front.length + j]? = some l := by
  have hj := (List.getElem?_eq_some_iff.1 h).1
  rw [List.append_assoc, List.getElem?_append_right (Nat.le_add_right ..), Nat.add_sub_cancel_left,
    List.getElem?_append_left hj, h]

/-- A script goes on being one when common lines are put around both sides and kept. -/
theorem IsScript.surround {ma mb : List α} {script : List Edit} (front back : List α)
    (h : IsScript ma mb script) :
    IsScript (front ++ ma ++ back) (front ++ mb ++ back)
      (keeps 0 0 front.length ++ script.map (.shift front.length) ++
        keeps (front.length + ma.length) (front.length + mb.length) back.length) where
  origins := by
    rw [List.filterMap_append, List.filterMap_append, filterMap_origin?_keeps,
      filterMap_origin?_shift, filterMap_origin?_keeps, h.origins, List.map_add_range',
      List.length_append, List.length_append, ← List.range'_append_1, ← List.range'_append_1]
    simp [Nat.add_comm]
  tips := by
    rw [List.filterMap_append, List.filterMap_append, filterMap_tip?_keeps,
      filterMap_tip?_shift, filterMap_tip?_keeps, h.tips, List.map_add_range',
      List.length_append, List.length_append, ← List.range'_append_1, ← List.range'_append_1]
    simp [Nat.add_comm]
  kept o t hm := by
    rw [List.mem_append, List.mem_append, mem_keeps, mem_keeps] at hm
    rcases hm with (⟨i, hi, rfl, rfl⟩ | hm) | ⟨i, hi, rfl, rfl⟩
    · refine ⟨front[i], ?_, ?_⟩
      · simp [List.getElem?_append_left, hi]
      · simp [List.getElem?_append_left, hi]
    · obtain ⟨e, he, hshift⟩ := List.mem_map.1 hm
      cases e with
      | keep o' t' =>
          obtain ⟨rfl, rfl⟩ := Edit.keep.inj hshift
          obtain ⟨ho, ht⟩ := h.one_le he
          obtain ⟨l, ha, hb⟩ := h.kept _ _ he
          rw [show o' + front.length - 1 = front.length + (o' - 1) by omega,
            show t' + front.length - 1 = front.length + (t' - 1) by omega]
          exact ⟨l, getElem?_between ha, getElem?_between hb⟩
      | delete o' => cases hshift
      | insert t' => cases hshift
    · refine ⟨back[i], ?_, ?_⟩
      · rw [List.getElem?_append_right (by simp)]
        simp [hi]
      · rw [List.getElem?_append_right (by simp)]
        simp [hi]

/-- A common subsequence of two sides with common lines around them has, those lines aside, one of
    what they surround. -/
theorem exists_common_middle {front ma mb back c : List α}
    (ha : c.Sublist (front ++ ma ++ back)) (hb : c.Sublist (front ++ mb ++ back)) :
    ∃ c' : List α, c'.Sublist ma ∧ c'.Sublist mb ∧
      c.length ≤ c'.length + front.length + back.length := by
  have drop_ends : ∀ {m : List α}, c.Sublist (front ++ m ++ back) →
      ((c.drop front.length).reverse.drop back.length).reverse.Sublist m := by
    intro m h
    have h' := ((h.drop front.length).reverse.drop back.length).reverse
    simpa using h'
  refine ⟨_, drop_ends ha, drop_ends hb, ?_⟩
  simp
  omega

theorem KeepsMost.surround {ma mb : List α} {script : List Edit} (front back : List α)
    (h : KeepsMost ma mb script) :
    KeepsMost (front ++ ma ++ back) (front ++ mb ++ back)
      (keeps 0 0 front.length ++ script.map (.shift front.length) ++
        keeps (front.length + ma.length) (front.length + mb.length) back.length) := by
  intro c hca hcb
  obtain ⟨c', hca', hcb', hlen⟩ := exists_common_middle hca hcb
  have := h c' hca' hcb'
  simp only [Edit.distance_append, distance_keeps, Edit.distance_map_shift, List.length_append]
  omega

/-! ## Line diffs -/

/-- What the search leaves of the lines between the common ends is as little as can be. -/
theorem searchScript?_keepsMost [DecidableEq α] (a b : List α) :
    ∃ s, searchScript? a.toArray b.toArray = some s ∧ IsScript a b s ∧ KeepsMost a b s := by
  obtain ⟨s, hs, hscript, hmin⟩ := searchScript?_eq_some a b
  refine ⟨s, hs, hscript, ?_⟩
  intro c hca hcb
  obtain ⟨s', htrail, hd⟩ := exists_trail_of_common hca hcb
  have := hmin _ ⟨s', htrail, rfl⟩
  omega

theorem between?_eq_some [DecidableEq α] (a b : List α) :
    ∃ s, Script.between? a b = some s ∧ IsScript a b s ∧ Edit.IsDeletesFirst s ∧
      KeepsMost a b s := by
  obtain ⟨front, back, ma, mb, ha, hb, hfront, hback⟩ := exists_common_ends a b
  obtain ⟨s, hs, hscript, hmost⟩ := searchScript?_keepsMost ma mb
  have hma : (a.drop front.length).take (a.length - front.length - back.length) = ma := by
    simp [ha]
  have hmb : (b.drop front.length).take (b.length - front.length - back.length) = mb := by
    simp [hb]
  have hla : a.length - back.length = front.length + ma.length := by
    simp only [ha, List.length_append]
    omega
  have hlb : b.length - back.length = front.length + mb.length := by
    simp only [hb, List.length_append]
    omega
  have hscript' := (hscript.surround front back).deletesFirst
  have hmost' := (hmost.surround front back).deletesFirst
  rw [← ha, ← hb] at hscript' hmost'
  refine ⟨_, ?_, hscript', Edit.isDeletesFirst_deletesFirst _, hmost'⟩
  simp only [Script.between?, ← hfront, ← hback, hma, hmb, hla, hlb, hs, Option.bind_eq_bind,
    Option.bind_some, Option.pure_def]

theorem diffLines?_eq_some [DecidableEq α] [Ord α] (a b : List α) :
    diffLines? a b = some (diffLines a b) ∧ IsScript a b (diffLines a b) ∧
      Edit.IsDeletesFirst (diffLines a b) ∧ KeepsMost a b (diffLines a b) := by
  have h : ∃ s, diffLines? a b = some s ∧ IsScript a b s ∧ Edit.IsDeletesFirst s ∧
      KeepsMost a b s := by
    rw [diffLines?]
    split
    · obtain ⟨s, hs, hscript, -, hmost⟩ := between?_eq_some b a
      exact ⟨_, by rw [hs, Option.map_some], hscript.flip.deletesFirst,
        Edit.isDeletesFirst_deletesFirst _, hmost.flip.deletesFirst⟩
    · exact between?_eq_some a b
  obtain ⟨s, hs, hrest⟩ := h
  have hd : diffLines a b = s := by rw [diffLines, hs, Option.getD_some]
  rw [hd]
  exact ⟨hs, hrest⟩

/-- A line diff stays inside the tables of its search, and what it returns is a script in which the
    deletions of every run of changes come before its insertions. -/
theorem diffLines?_eq_some_isScript [DecidableEq α] [Ord α] (a b : List α) :
    diffLines? a b = some (diffLines a b) ∧ IsScript a b (diffLines a b) ∧
      Edit.IsDeletesFirst (diffLines a b) := by
  obtain ⟨hsome, hscript, hruns, -⟩ := diffLines?_eq_some a b
  exact ⟨hsome, hscript, hruns⟩

/-- No script has fewer changes than a line diff: the lines that it keeps are a longest common
    subsequence. -/
theorem diffLines_isShortest [DecidableEq α] [Ord α] (a b : List α) :
    IsShortest a b (diffLines a b) ∧ ∃ c, IsLongestCommon a b c ∧
      Edit.distance (diffLines a b) + 2 * c.length = a.length + b.length := by
  obtain ⟨-, hscript, -, hmost⟩ := diffLines?_eq_some a b
  obtain ⟨c, hca, hcb, hd⟩ := hscript.exists_common
  refine ⟨hmost.isShortest hscript, c, ⟨hca, hcb, ?_⟩, hd⟩
  intro c' hca' hcb'
  have := hmost c' hca' hcb'
  omega

end YamlListing

import YamlListing.Proofs.Diff.Shortest
import YamlListing.Proofs.Diff.View

set_option autoImplicit false

/-! # Line diffs from both sides

A line diff read from the other side is, once deletions come first again, the line diff of the two
sides exchanged. The search does not give this: it is that of the lesser side both times. What is
left is that flipping a script and moving its deletions ahead can be undone by doing so once more
(`deletesFirst_flip_deletesFirst_flip`), and that equal sides have nothing but common lines.

So a view and the view of the exchanged sources keep the same pairs of lines, in the same order
(`diffLines_flip`). -/

namespace YamlListing

variable {α : Type}

namespace Edit

@[simp] theorem map_flip_map_flip (script : List Edit) : (script.map flip).map flip = script := by
  simp [Function.comp_def]

/-! ## Moving deletions -/

theorem deletesFirstAfter_append_of_deletes {deletes : List Edit}
    (h : ∀ e ∈ deletes, ∃ o, e = delete o) (inserts script : List Edit) :
    deletesFirstAfter inserts (deletes ++ script) = deletes ++ deletesFirstAfter inserts script := by
  induction deletes with
  | nil => rfl
  | cons e deletes ih =>
    obtain ⟨⟨o, rfl⟩, hrest⟩ := List.forall_mem_cons.1 h
    rw [List.cons_append, deletesFirstAfter, ih hrest, List.cons_append]

theorem deletesFirstAfter_append_of_inserts {inserts : List Edit}
    (h : ∀ e ∈ inserts, ∃ t, e = insert t) (before script : List Edit) :
    deletesFirstAfter before (inserts ++ script) =
      deletesFirstAfter (before ++ inserts) script := by
  induction inserts generalizing before with
  | nil => rw [List.nil_append, List.append_nil]
  | cons e inserts ih =>
    obtain ⟨⟨t, rfl⟩, hrest⟩ := List.forall_mem_cons.1 h
    rw [List.cons_append, deletesFirstAfter, ih hrest, List.append_assoc, List.singleton_append]

/-- Where deletions come first already, moving them changes nothing. -/
theorem deletesFirstAfter_deletesFirstAfter {inserts : List Edit}
    (h : ∀ e ∈ inserts, ∃ t, e = insert t) (before script : List Edit) :
    deletesFirstAfter before (deletesFirstAfter inserts script) =
      deletesFirstAfter (before ++ inserts) script := by
  induction script generalizing inserts before with
  | nil =>
    have hrun := deletesFirstAfter_append_of_inserts h before []
    rw [List.append_nil] at hrun
    rw [deletesFirstAfter, hrun]
  | cons e script ih =>
    cases e with
    | keep o t =>
      have hrest := ih (List.forall_mem_nil _) []
      rw [List.append_nil] at hrest
      simp only [deletesFirstAfter, deletesFirstAfter_append_of_inserts h, hrest]
    | delete o => simp only [deletesFirstAfter, ih h]
    | insert t =>
      have hinserts : ∀ e ∈ inserts ++ [insert t], ∃ t, e = insert t :=
        List.forall_mem_append.2 ⟨h, by simp⟩
      simp only [deletesFirstAfter, ih hinserts, List.append_assoc]

theorem deletesFirst_deletesFirst (script : List Edit) :
    deletesFirst (deletesFirst script) = deletesFirst script :=
  deletesFirstAfter_deletesFirstAfter (List.forall_mem_nil _) [] script

theorem deletesFirstAfter_flip {deletes : List Edit} (h : ∀ e ∈ deletes, ∃ o, e = delete o)
    (inserts script : List Edit) :
    deletesFirstAfter inserts
        ((deletesFirstAfter (deletes.map flip) (script.map flip)).map flip) =
      deletes ++ deletesFirstAfter inserts script := by
  -- The deletions of a run are the insertions of the other side: they wait in the inner list until
  -- the run ends, while the insertions of the run pass there and wait in the outer one.
  induction script generalizing deletes inserts with
  | nil =>
    have hrun := deletesFirstAfter_append_of_deletes h inserts []
    rw [List.append_nil] at hrun
    rw [List.map_nil, deletesFirstAfter, map_flip_map_flip, hrun]
  | cons e script ih =>
    cases e with
    | keep o t =>
      have hrest := ih (List.forall_mem_nil _) []
      rw [List.map_nil, List.nil_append] at hrest
      show deletesFirstAfter inserts
          ((deletes.map flip ++ keep t o :: deletesFirstAfter [] (script.map flip)).map flip) =
        deletes ++ (inserts ++ keep o t :: deletesFirstAfter [] script)
      rw [List.map_append, map_flip_map_flip, deletesFirstAfter_append_of_deletes h, List.map_cons,
        flip, deletesFirstAfter, hrest]
    | delete o =>
      have hdeletes : ∀ e ∈ deletes ++ [delete o], ∃ o, e = delete o :=
        List.forall_mem_append.2 ⟨h, by simp⟩
      have hrest := ih hdeletes inserts
      rw [List.map_append] at hrest
      simpa [deletesFirstAfter, flip] using hrest
    | insert t =>
      have hrest := ih h (inserts ++ [insert t])
      simpa [deletesFirstAfter, flip] using hrest

/-- Reading a script from the other side twice gives it back, with its deletions first. -/
theorem deletesFirst_flip_deletesFirst_flip (script : List Edit) :
    deletesFirst ((deletesFirst (script.map flip)).map flip) = deletesFirst script :=
  deletesFirstAfter_flip (List.forall_mem_nil _) [] script

theorem deletesFirst_of_keeps {script : List Edit} (h : ∀ e ∈ script, e.isChange = false) :
    deletesFirst script = script := by
  induction script with
  | nil => rfl
  | cons e script ih =>
    obtain ⟨he, hrest⟩ := List.forall_mem_cons.1 h
    cases e with
    | keep o t => exact congrArg (keep o t :: ·) (ih hrest)
    | delete o => cases he
    | insert t => cases he

end Edit

/-! ## Equal sides -/

theorem commonLength_self [DecidableEq α] (a : List α) : commonLength a a = a.length := by
  induction a with
  | nil => rfl
  | cons x a ih => rw [commonLength, if_pos rfl, ih, List.length_cons]

/-- Equal sides have nothing but common lines. -/
theorem between?_self [DecidableEq α] (a : List α) :
    Script.between? a a = some (keeps 0 0 a.length) := by
  have hkeeps : Edit.deletesFirst (keeps 0 0 a.length) = keeps 0 0 a.length := by
    refine Edit.deletesFirst_of_keeps ?_
    intro e he
    obtain ⟨i, -, rfl⟩ := List.mem_map.1 he
    rfl
  simp [Script.between?, commonLength_self, searchScript?, keeps] at hkeeps ⊢
  exact hkeeps

theorem map_flip_keeps (origin tip count : Nat) :
    (keeps origin tip count).map Edit.flip = keeps tip origin count := by
  simp [keeps, Edit.flip, Function.comp_def]

/-! ## Exchanged sides -/

theorem deletesFirst_of_between? [DecidableEq α] {a b : List α} {script : List Edit}
    (h : Script.between? a b = some script) : Edit.deletesFirst script = script := by
  rw [Script.between?] at h
  obtain ⟨s, -, hs⟩ := Option.bind_eq_some_iff.1 h
  obtain rfl := Option.some.inj hs
  exact Edit.deletesFirst_deletesFirst _

theorem diffLines_of_gt [DecidableEq α] [Ord α] {a b : List α} {script : List Edit}
    (hcompare : compare a b = .gt) (h : Script.between? b a = some script) :
    diffLines a b = Edit.deletesFirst (script.map Edit.flip) := by
  rw [diffLines, diffLines?, if_pos hcompare, h]
  rfl

theorem diffLines_of_ne_gt [DecidableEq α] [Ord α] {a b : List α} {script : List Edit}
    (hcompare : compare a b ≠ .gt) (h : Script.between? a b = some script) :
    diffLines a b = script := by
  rw [diffLines, diffLines?, if_neg hcompare, h]
  rfl

theorem diffLines_exchange [DecidableEq α] [Ord α] [Std.OrientedOrd α] [Std.LawfulEqOrd α]
    (a b : List α) : diffLines a b = Edit.deletesFirst ((diffLines b a).map Edit.flip) := by
  have hswap : compare b a = (compare a b).swap := Std.OrientedOrd.eq_swap
  cases hcompare : compare a b with
  | lt =>
    -- The search is from `a` to `b` both times, and its script is flipped twice.
    rw [hcompare] at hswap
    obtain ⟨script, hscript, -⟩ := between?_eq_some a b
    rw [diffLines_of_ne_gt (by simp [hcompare]) hscript, diffLines_of_gt hswap hscript,
      Edit.deletesFirst_flip_deletesFirst_flip, deletesFirst_of_between? hscript]
  | eq =>
    obtain rfl : a = b := Std.LawfulEqOrd.eq_of_compare hcompare
    have hkeeps := between?_self a
    rw [diffLines_of_ne_gt (by simp) hkeeps, map_flip_keeps,
      deletesFirst_of_between? hkeeps]
  | gt =>
    rw [hcompare] at hswap
    obtain ⟨script, hscript, -⟩ := between?_eq_some b a
    rw [diffLines_of_gt hcompare hscript, diffLines_of_ne_gt (by simp [hswap]) hscript]

/-! ## Kept lines of a view -/

/-- The numbers of a line that is kept, in the origin and in the tip. -/
def DiffLine.kept? (line : DiffLine) : Option (Nat × Nat) :=
  match line.kind, line.origin, line.tip with
  | .unchanged, some origin, some tip => some (origin, tip)
  | _, _, _ => none

/-- The pairs of lines that a view shows as unchanged. -/
def DiffView.keptPairs (v : DiffView) : List (Nat × Nat) := v.lines.filterMap DiffLine.kept?

theorem kept?_diffLine_flip (e : Edit) : e.flip.diffLine.kept? = e.diffLine.kept?.map Prod.swap := by
  cases e <;> rfl

theorem filterMap_kept?_deletesFirst (script : List Edit) :
    (Edit.deletesFirst script).filterMap (fun e => e.diffLine.kept?) =
      script.filterMap (fun e => e.diffLine.kept?) :=
  Edit.filterMap_deletesFirstAfter (fun _ => rfl) script rfl

theorem keptPairs_full (origin tip : Source) :
    (DiffView.full origin tip).keptPairs =
      (DiffView.script origin tip).filterMap fun e => e.diffLine.kept? := by
  rw [DiffView.keptPairs, DiffView.lines_full, List.filterMap_map]
  rfl

/-- A line diff is that of the exchanged sides, flipped and with its deletions first again; and the
views of two sources keep the same pairs of lines, whichever of the two is the origin. -/
theorem diffLines_flip [DecidableEq α] [Ord α] [Std.OrientedOrd α] [Std.LawfulEqOrd α]
    (a b : List α) (origin tip : Source) :
    diffLines a b = Edit.deletesFirst ((diffLines b a).map Edit.flip) ∧
      (DiffView.full origin tip).keptPairs =
        (DiffView.full tip origin).keptPairs.map Prod.swap := by
  refine ⟨diffLines_exchange a b, ?_⟩
  have hscript : DiffView.script origin tip =
      Edit.deletesFirst ((DiffView.script tip origin).map Edit.flip) := diffLines_exchange _ _
  rw [keptPairs_full, keptPairs_full, hscript, filterMap_kept?_deletesFirst, List.filterMap_map,
    List.map_filterMap]
  refine List.filterMap_congr ?_
  intro e _
  exact kept?_diffLine_flip e

/-- Two lines that change places have two longest common subsequences, one line each. -/
theorem diffLines_flip_crossed :
    Std.OrientedOrd Text ∧ Std.LawfulEqOrd Text ∧
      diffLines [['x'], ['y']] [['y'], ['x']] =
        Edit.deletesFirst ((diffLines [['y'], ['x']] [['x'], ['y']]).map Edit.flip) ∧
      (DiffView.full (.ofLines [['x'], ['y']] none) (.ofLines [['y'], ['x']] none)).keptPairs =
        (DiffView.full (.ofLines [['y'], ['x']] none)
          (.ofLines [['x'], ['y']] none)).keptPairs.map Prod.swap :=
  ⟨inferInstance, inferInstance, diffLines_flip _ _ _ _⟩

end YamlListing

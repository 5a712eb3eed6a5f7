import Mathlib.Data.Nat.ModEq
import YamlListing.Listing.Printer
import YamlListing.Proofs.Unicode.Width

set_option autoImplicit false

/-! # Tab stops

A tab is replaced by spaces up to the next tab stop, so the column before it matters, up to whole
tab stops. The column is counted along the runs of a line, and each run is measured alone. So a line
looks the same in whatever runs it comes if the widths before its tabs add up (`AddsUp`): then its
tabs are replaced as if it came in one piece (`expandParts_eq`). Where they do not add up, two ways
to cut the line give different numbers of spaces (`modEq_of_expandParts_eq`). -/

namespace YamlListing.Run

open Unicode (textWidth clusters clusterWidth standsAlone)

variable {w k k' : Nat} {a b c p q t u : Text}

/-- The spaces from a column to the next tab stop. -/
def padding (w k : Nat) : Text := List.replicate (max 1 w - k % max 1 w) ' '

/-- The next tab stop after a column. -/
def nextStop (w k : Nat) : Nat := k + (max 1 w - k % max 1 w)

theorem mod_lt (w k : Nat) : k % max 1 w < max 1 w := Nat.mod_lt k (by omega)

theorem nextStop_modEq_zero (w k : Nat) : nextStop w k ≡ 0 [MOD max 1 w] := by
  have hlt := mod_lt w k
  have hstop : nextStop w k = max 1 w * (k / max 1 w + 1) := by
    rw [nextStop, Nat.mul_succ]
    have hdiv := Nat.div_add_mod k (max 1 w)
    omega
  rw [hstop]
  exact Nat.modEq_zero_iff_dvd.2 (Nat.dvd_mul_right _ _)

theorem padding_eq_iff : padding w k = padding w k' ↔ k ≡ k' [MOD max 1 w] := by
  have hlt := mod_lt w k
  have hlt' := mod_lt w k'
  simp only [padding, List.replicate_inj, or_true, and_true, Nat.ModEq]
  omega

/-! ## Texts with tabs -/

/-- A text has no tab, or it has one after a text that has none. -/
@[elab_as_elim]
theorem tabInduction {motive : Text → Prop} (plain : ∀ a, '\t' ∉ a → motive a)
    (tab : ∀ a b, '\t' ∉ a → motive b → motive (a ++ '\t' :: b)) (t : Text) : motive t := by
  by_cases h : '\t' ∈ t
  · obtain ⟨a, b, ht, ha⟩ := List.eq_append_cons_of_mem h
    have hlt : b.length < t.length := by
      rw [ht, List.length_append, List.length_cons]
      omega
    rw [ht]
    exact tab a b ha (tabInduction plain tab b)
  · exact plain t h
termination_by t.length

theorem expandClusters_append (w k : Nat) (front back : List Text) :
    expandClusters w k (front ++ back) =
      ((expandClusters w k front).1 ++ (expandClusters w (expandClusters w k front).2 back).1,
        (expandClusters w (expandClusters w k front).2 back).2) := by
  induction front generalizing k with
  | nil => rfl
  | cons cluster front ih => simp only [List.cons_append, expandClusters, ih, List.append_assoc]

theorem expandClusters_of_notMem {clusters : List Text} (h : ['\t'] ∉ clusters) :
    expandClusters w k clusters = (clusters.flatten,
      k + clusters.foldr (fun cluster width => clusterWidth cluster + width) 0) := by
  induction clusters generalizing k with
  | nil => rfl
  | cons cluster rest ih =>
    rw [List.mem_cons, not_or] at h
    simp only [expandClusters, if_neg (Ne.symm h.1), ih h.2, List.flatten_cons, List.foldr_cons,
      Nat.add_assoc]

theorem expandTabs_of_notMem (h : '\t' ∉ a) : expandTabs w k a = (a, k + textWidth a) := by
  rw [expandTabs, expandClusters_of_notMem (Unicode.tab_notMem_clusters h),
    Unicode.flatten_clusters, textWidth]

theorem expandTabs_append_tab (h : '\t' ∉ a) : expandTabs w k (a ++ '\t' :: b) =
    (a ++ (padding w (k + textWidth a) ++ (expandTabs w (nextStop w (k + textWidth a)) b).1),
      (expandTabs w (nextStop w (k + textWidth a)) b).2) := by
  have hfront : expandClusters (max 1 w) k (clusters a) = (a, k + textWidth a) :=
    expandTabs_of_notMem h
  rw [expandTabs, Unicode.clusters_append_tab, expandClusters_append, hfront]
  rfl

/-- Columns that lie as far from their next tab stops are the same to a text. -/
theorem expandTabs_congr (h : k ≡ k' [MOD max 1 w]) (t : Text) :
    (expandTabs w k t).1 = (expandTabs w k' t).1 := by
  induction t using tabInduction generalizing k k' with
  | plain a ha => rw [expandTabs_of_notMem ha, expandTabs_of_notMem ha]
  | tab a b ha ih =>
    rw [expandTabs_append_tab ha, expandTabs_append_tab ha, padding_eq_iff.2 (h.add_right _),
      ih ((nextStop_modEq_zero w _).trans (nextStop_modEq_zero w _).symm)]

/-! ## Widths that add up -/

/-- Whether widths add up, but for whole tab stops, wherever a text right before a tab is cut. -/
def AddsUp (w : Nat) (t : Text) : Prop :=
  ∀ b c, '\t' ∉ b → '\t' ∉ c → b ++ c ++ ['\t'] <:+: t →
    textWidth (b ++ c) ≡ textWidth b + textWidth c [MOD max 1 w]

theorem AddsUp.of_infix (h : AddsUp w t) (hu : u <:+: t) : AddsUp w u :=
  fun b c hb hc hoccurs => h b c hb hc (hoccurs.trans hu)

/-- They do where no character changes the width of another one. -/
theorem addsUp_of_standAlone (w : Nat) (h : ∀ c ∈ t, standsAlone c = true) : AddsUp w t := by
  intro b c _ _ hoccurs
  have hmem : ∀ x ∈ b ++ c, standsAlone x = true := fun x hx =>
    h x (hoccurs.subset (List.mem_append_left _ hx))
  rw [List.forall_mem_append] at hmem
  rw [Unicode.textWidth_of_standAlone hmem.1, Unicode.textWidth_of_standAlone hmem.2,
    Unicode.textWidth_of_standAlone (List.forall_mem_append.2 hmem), Unicode.charsWidth_append]

/-- A text can be cut in two where widths add up. -/
theorem expandTabs_append (h : AddsUp w (p ++ q)) (k : Nat) : (expandTabs w k (p ++ q)).1 =
    (expandTabs w k p).1 ++ (expandTabs w (expandTabs w k p).2 q).1 := by
  induction p using tabInduction generalizing k with
  | tab a b ha ih =>
    have hb : AddsUp w (b ++ q) := h.of_infix ⟨a ++ ['\t'], [], by simp⟩
    rw [List.append_assoc, List.cons_append, expandTabs_append_tab ha, expandTabs_append_tab ha,
      ih hb]
    simp only [List.append_assoc]
  | plain a ha =>
    rw [expandTabs_of_notMem ha]
    by_cases hq : '\t' ∈ q
    · obtain ⟨v, q, rfl, hv⟩ := List.eq_append_cons_of_mem hq
      have hav : '\t' ∉ a ++ v := by simp [ha, hv]
      have hwidth : k + textWidth (a ++ v) ≡ k + textWidth a + textWidth v [MOD max 1 w] := by
        rw [Nat.add_assoc]
        exact (h a v ha hv ⟨[], q, by simp⟩).add_left k
      rw [← List.append_assoc, expandTabs_append_tab hav, expandTabs_append_tab hv,
        padding_eq_iff.2 hwidth, List.append_assoc,
        expandTabs_congr ((nextStop_modEq_zero w _).trans (nextStop_modEq_zero w _).symm) q]
    · have haq : '\t' ∉ a ++ q := by simp [ha, hq]
      rw [expandTabs_of_notMem haq, expandTabs_of_notMem hq]

/-! ## Texts in parts -/

/-- Replaces the tabs of the parts of a line. -/
def expandParts (w k : Nat) : List Text → Text
  | [] => []
  | part :: rest => (expandTabs w k part).1 ++ expandParts w (expandTabs w k part).2 rest

/-- In whatever parts a line comes, its tabs are replaced as if it came in one piece. -/
theorem expandParts_eq {parts : List Text} (h : AddsUp w parts.flatten) (k : Nat) :
    expandParts w k parts = (expandTabs w k parts.flatten).1 := by
  induction parts generalizing k with
  | nil => rfl
  | cons part rest ih =>
    have hrest : AddsUp w rest.flatten := h.of_infix (List.suffix_append _ _).isInfix
    rw [expandParts, ih hrest, List.flatten_cons, expandTabs_append h]

theorem expandParts_cons_nil (w k : Nat) (parts : List Text) :
    expandParts w k ([] :: parts) = expandParts w k parts := rfl

/-- Parts that meet before a tab show whether the widths there add up. -/
theorem modEq_of_expandParts_eq {x y : Text} (hb : '\t' ∉ b) (hc : '\t' ∉ c)
    (h : expandParts w k [x, b, c ++ '\t' :: y] = expandParts w k [x, b ++ c, '\t' :: y]) :
    textWidth (b ++ c) ≡ textWidth b + textWidth c [MOD max 1 w] := by
  have hbc : '\t' ∉ b ++ c := by simp [hb, hc]
  have htab : ∀ k, expandTabs w k ('\t' :: y) =
      (padding w k ++ (expandTabs w (nextStop w k) y).1, (expandTabs w (nextStop w k) y).2) :=
    fun k => expandTabs_append_tab (a := []) List.not_mem_nil
  simp only [expandParts, expandTabs_of_notMem hb, expandTabs_of_notMem hbc,
    expandTabs_append_tab hc, htab] at h
  generalize (expandTabs w k x).2 = column at h
  -- What comes after the tab begins at a tab stop either way.
  rw [expandTabs_congr ((nextStop_modEq_zero w _).trans
    (nextStop_modEq_zero w (column + textWidth (b ++ c))).symm) y] at h
  simp only [List.append_assoc, List.append_cancel_left_eq, List.append_nil,
    List.append_cancel_right_eq] at h
  have hmod := padding_eq_iff.1 h
  rw [Nat.add_assoc] at hmod
  exact (Nat.ModEq.add_left_cancel' column hmod).symm

end YamlListing.Run

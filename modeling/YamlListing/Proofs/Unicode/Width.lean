import YamlListing.Unicode.Width

set_option autoImplicit false

/-! # Widths of texts

The width of a text is that of its grapheme clusters. It need not be the sum of the widths of two
parts of the text, since a cluster can be cut in two: a variation selector alone takes no column,
and it makes an emoji wider that it stands with. Two things are sure. A tab is a cluster of its own
(`clusters_append_tab`), and the width of a text adds up where no character changes the width of
another one (`textWidth_of_standAlone`). -/

namespace YamlListing.Unicode

/-- The columns that a text takes. -/
def textWidth (t : Text) : Nat :=
  (clusters t).foldr (fun cluster width => clusterWidth cluster + width) 0

theorem textWidth_nil : textWidth [] = 0 := rfl

/-! ## Tabs -/

theorem clusterClass_tab : clusterClass '\t' = .control := by decide +kernel

/-- A tab never goes on with a cluster, and nothing that comes before it matters after it. -/
theorem joins_tab (ctx : Context) : ctx.joins '\t' = false := by
  simp [Context.joins, clusterClass_tab, ClusterClass.isControl]

theorem push_tab (ctx : Context) : ctx.push '\t' = .start := by
  have hconsonant : conjunctConsonants.mem '\t' = false := by decide +kernel
  have hlinker : conjunctLinkers.mem '\t' = false := by decide +kernel
  have hpictograph : pictographs.mem '\t' = false := by decide +kernel
  simp [Context.push, Context.start, clusterClass_tab, hconsonant, hlinker, hpictograph]

theorem clustersFrom_append_tab (ctx : Context) (a b : Text) :
    clustersFrom ctx (a ++ '\t' :: b) =
      ((clustersFrom ctx a).1, (clustersFrom ctx a).2 ++ ['\t'] :: clusters b) := by
  induction a generalizing ctx with
  | nil =>
    simp only [List.nil_append, clustersFrom]
    rw [push_tab, joins_tab, clustersFrom_start]
    rfl
  | cons c a ih =>
    rw [List.cons_append, clustersFrom, clustersFrom, ih]
    cases ctx.joins c <;> rfl

theorem clusters_append_tab (a b : Text) :
    clusters (a ++ '\t' :: b) = clusters a ++ ['\t'] :: clusters b := by
  rw [clusters, clustersFrom_append_tab]
  rfl

theorem tab_notMem_clusters {t : Text} (h : '\t' ∉ t) : ['\t'] ∉ clusters t := by
  intro hmem
  rw [← flatten_clusters t] at h
  exact h (List.mem_flatten.2 ⟨_, hmem, List.mem_singleton_self _⟩)

/-! ## Characters that stand alone -/

/-- The columns of the characters of a text, each on its own. -/
def charsWidth (t : Text) : Nat := t.foldr (fun c width => charWidth c + width) 0

theorem charsWidth_append (a b : Text) : charsWidth (a ++ b) = charsWidth a + charsWidth b := by
  induction a with
  | nil => exact (Nat.zero_add _).symm
  | cons c a ih =>
    have hcons : ∀ t, charsWidth (c :: t) = charWidth c + charsWidth t := fun _ => rfl
    rw [List.cons_append, hcons, hcons, ih, Nat.add_assoc]

/-- Whether a character neither is a variation selector nor changes the width of the one before it.
-/
def standsAlone (c : Char) : Bool := following c == .nothing && c != '\ufe0e' && c != '\ufe0f'

theorem widthBefore_of_standsAlone {c : Char} (h : standsAlone c = true) :
    widthBefore .nothing c = ((charWidth c : Int), Following.nothing) := by
  simp only [standsAlone, Bool.and_eq_true, beq_iff_eq, bne_iff_ne] at h
  obtain ⟨⟨hfollowing, htext⟩, hemoji⟩ := h
  rw [widthBefore, if_neg hemoji, if_neg htext, hfollowing]

theorem widthFrom_of_standAlone {t : Text} (h : ∀ c ∈ t, standsAlone c = true) :
    widthFrom t = ((charsWidth t : Int), Following.nothing) := by
  induction t with
  | nil => rfl
  | cons c t ih =>
    obtain ⟨hc, ht⟩ := List.forall_mem_cons.1 h
    rw [widthFrom, ih ht]
    simp only [widthBefore_of_standsAlone hc]
    rfl

/-- Where every character stands alone, the width of a text is that of its characters, however it is
cut into clusters. -/
theorem textWidth_of_standAlone {t : Text} (h : ∀ c ∈ t, standsAlone c = true) :
    textWidth t = charsWidth t := by
  have hsum : ∀ parts : List Text, (∀ c ∈ parts.flatten, standsAlone c = true) →
      parts.foldr (fun cluster width => clusterWidth cluster + width) 0 =
        charsWidth parts.flatten := by
    intro parts hparts
    induction parts with
    | nil => rfl
    | cons cluster parts ih =>
      rw [List.flatten_cons, List.forall_mem_append] at hparts
      have hcluster : clusterWidth cluster = charsWidth cluster := by
        rw [clusterWidth, widthFrom_of_standAlone hparts.1, Int.toNat_natCast]
      rw [List.foldr_cons, ih hparts.2, hcluster, List.flatten_cons, charsWidth_append]
  have hflatten := flatten_clusters t
  rw [textWidth, hsum (clusters t) (by rwa [hflatten]), hflatten]

end YamlListing.Unicode

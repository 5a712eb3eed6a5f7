import YamlListing.Proofs.Style.Override
import YamlListing.Proofs.Theme.Styles

set_option autoImplicit false

/-! # How styles are inherited

A category looks like the base style under the styles that were last given for the categories on its
path from the root, each laid over the ones before (`Styles.derive_cascades`). It does not matter
with which step of a derivation they were given. A category has the handle of its parent if it was
given no style, and otherwise a handle of its own; but the root is its own parent. -/

namespace YamlListing

namespace Category

/-- The categories from the root to one. -/
def path (c : Category) : List Category := (c :: c.ancestors).reverse

theorem path_of_isRoot {c : Category} (h : c.isRoot = true) : c.path = [c] := by
  rw [path, ancestors, dif_neg (by rw [h]; exact Bool.noConfusion)]
  rfl

theorem path_of_parent {c : Category} (h : c.isRoot = false) : c.path = c.parent.path ++ [c] := by
  rw [path, ancestors, dif_pos h, List.reverse_cons, path]

end Category

namespace Styles

/-- The theme that comes of another one when it is given styles step by step. -/
def derive (s : Styles) (steps : List (Nat × List (Category × Style))) : Styles :=
  steps.foldl (fun s step => s.withOverrides step.1 step.2) s

/-- The style that was given last for a category. -/
def lastGiven (given : List (Category × Style)) (c : Category) : Option Style :=
  (given.filter (·.1 == c)).getLast?.map Prod.snd

/-- The styles that were given for the categories from the root to one. -/
def givenTo (given : List (Category × Style)) (c : Category) : List Style :=
  c.path.filterMap (lastGiven given)

/-- Whether a theme shows a category as a base style and given styles say. -/
structure Cascades (s : Styles) (base : Style) (given : List (Category × Style))
    (c : Category) : Prop where
  style : s.style c = (givenTo given c).foldl Style.overrideStyle base
  /-- The color is that of the deepest style that has one. -/
  foreground : (s.style c).foreground =
    ((givenTo given c).reverse.findSome? Style.foreground).or base.foreground
  background : (s.style c).background =
    ((givenTo given c).reverse.findSome? Style.background).or base.background
  attributes : (s.style c).attributes =
    ((givenTo given c).map (·.attributes)).foldl Attributes.union base.attributes
  /-- The transform of the base style runs first. -/
  transformed : ∀ t, (s.style c).transformed t =
    (givenTo given c).foldl (fun t style => style.transformed t) (base.transformed t)
  /-- The root is its own parent. -/
  handle : (s.handle c).same (s.handle c.parent) = true ↔
    lastGiven given c = none ∨ c.isRoot = true

variable {s : Styles} {c : Category} {own : Style}

/-! ## Derived themes -/

theorem derive_base (s : Styles) (steps : List (Nat × List (Category × Style))) :
    (s.derive steps).base = s.base := by
  induction steps generalizing s with
  | nil => rfl
  | cons step steps ih => exact ih _

theorem derive_overrides (s : Styles) (steps : List (Nat × List (Category × Style))) :
    (s.derive steps).overrides = s.overrides ++ steps.flatMap (·.2) := by
  induction steps generalizing s with
  | nil => exact (List.append_nil _).symm
  | cons step steps ih =>
    rw [List.flatMap_cons, ← List.append_assoc]
    exact ih (s.withOverrides step.1 step.2)

theorem own?_eq_lastGiven (s : Styles) (c : Category) : s.own? c = lastGiven s.overrides c := by
  rw [own?, lastGiven, ← List.head?_filter, List.filter_reverse, List.head?_reverse]

/-! ## Styles -/

theorem filterMap_singleton {α β : Type} (f : α → Option β) (a : α) :
    [a].filterMap f = (f a).toList := by
  rw [List.filterMap_cons]
  cases f a <;> rfl

theorem givenTo_of_isRoot (hroot : c.isRoot = true) (given : List (Category × Style)) :
    givenTo given c = (lastGiven given c).toList := by
  rw [givenTo, Category.path_of_isRoot hroot, filterMap_singleton]

theorem givenTo_of_parent (hroot : c.isRoot = false) (given : List (Category × Style)) :
    givenTo given c = givenTo given c.parent ++ (lastGiven given c).toList := by
  rw [givenTo, Category.path_of_parent hroot, List.filterMap_append, filterMap_singleton, givenTo]

theorem style_of_isRoot (hroot : c.isRoot = true) :
    s.style c = (s.own? c).toList.foldl Style.overrideStyle s.base := by
  obtain rfl : c = .text := eq_of_beq hroot
  cases hown : s.own? .text with
  | none => exact style_text hown
  | some own => exact style_text_of_own hown

/-- The styles on the path are laid one over the other. -/
theorem style_eq_foldl (s : Styles) (c : Category) :
    s.style c = (givenTo s.overrides c).foldl Style.overrideStyle s.base := by
  induction c using handle.induct (s := s) with
  | case1 c hroot hown ih =>
    rw [style_of_inherited hroot hown, ih, givenTo_of_parent hroot, ← own?_eq_lastGiven, hown]
    exact congrArg _ (List.append_nil _).symm
  | case2 c hroot own hown ih =>
    rw [style_of_own hroot hown, ih, givenTo_of_parent hroot, ← own?_eq_lastGiven, hown,
      List.foldl_append]
    rfl
  | case3 c hroot =>
    rw [Bool.not_eq_false] at hroot
    rw [style_of_isRoot hroot, givenTo_of_isRoot hroot, own?_eq_lastGiven]

/-! ## Handles -/

/-- A category is inherited just as it is, or it has a handle of its own. -/
theorem same_handle_parent_iff (s : Styles) (c : Category) :
    (s.handle c).same (s.handle c.parent) = true ↔ s.own? c = none ∨ c.isRoot = true := by
  rw [Handle.same, beq_iff_eq]
  cases hroot : c.isRoot with
  | true =>
    obtain rfl : c = .text := eq_of_beq hroot
    exact iff_of_true rfl (Or.inr rfl)
  | false =>
    cases hown : s.own? c with
    | none => exact iff_of_true (by rw [handle_of_inherited hroot hown]) (Or.inl rfl)
    | some own =>
      refine iff_of_false (fun hid => ?_) (by simp)
      obtain ⟨owner, hparent, -, hle⟩ := s.exists_handle_id c.parent
      rw [hparent, handle_of_own hroot hown] at hid
      obtain rfl : c = owner := (HandleId.entry.inj hid).2
      exact Nat.not_lt.2 hle (Category.parent_lt hroot)

/-- However a theme is derived, it shows a category as the styles that were given last for the
categories on its path say. -/
theorem derive_cascades (id : Nat) (base : Style) (first : List (Category × Style))
    (steps : List (Nat × List (Category × Style))) (c : Category) :
    (derive ⟨id, base, first⟩ steps).Cascades base (first ++ steps.flatMap (·.2)) c := by
  have hbase : (derive ⟨id, base, first⟩ steps).base = base := derive_base _ steps
  have hoverrides := derive_overrides ⟨id, base, first⟩ steps
  generalize derive ⟨id, base, first⟩ steps = s at hbase hoverrides
  rw [← hoverrides, ← hbase]
  have hstyle := s.style_eq_foldl c
  refine ⟨hstyle, ?_, ?_, ?_, fun t => ?_, ?_⟩
  · rw [hstyle, Style.color_foldl_overrideStyle Style.foreground_overrideStyle]
  · rw [hstyle, Style.color_foldl_overrideStyle Style.background_overrideStyle]
  · rw [hstyle, Style.attributes_foldl_overrideStyle]
  · rw [hstyle, Style.transformed_foldl_overrideStyle]
  · rw [← own?_eq_lastGiven]
    exact s.same_handle_parent_iff c

/-- The root has the handle of its parent, which it is itself, even if it was given a style. -/
theorem not_same_handle_iff_lastGiven_eq_none :
    ¬ ∀ c, (handle ⟨0, .plain, [(.text, Style.plain.bold)]⟩ c).same
        (handle ⟨0, .plain, [(.text, Style.plain.bold)]⟩ c.parent) = true ↔
      lastGiven [(.text, Style.plain.bold)] c = none := by
  intro h
  have hnone := (h .text).1 (beq_self_eq_true _)
  cases hnone

end Styles

end YamlListing

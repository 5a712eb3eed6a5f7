import YamlListing.Proofs.Style.Alike

set_option autoImplicit false

/-! # Styles over styles

What is seen of styles that are laid one over the other: the topmost color that is there, the
attributes of all of them, and a text on which the transforms have run from the lowest style up. -/

namespace YamlListing

namespace Style

/-! ## Two styles -/

theorem pickColor_eq_or (lower upper : Option Color) :
    pickColor (fun _ top => top) lower upper = upper.or lower := by
  cases lower <;> cases upper <;> rfl

theorem filter_isVisible_or (a b : Option Color) :
    ((a.filter (·.isVisible)).or (b.filter (·.isVisible))).filter (·.isVisible) =
      (a.filter (·.isVisible)).or (b.filter (·.isVisible)) := by
  have ha := filter_isVisible_filter a
  cases h : a.filter (·.isVisible) with
  | none => exact filter_isVisible_filter b
  | some color =>
    rw [h] at ha
    exact ha

theorem foreground_overrideStyle (lower upper : Style) :
    (lower.overrideStyle upper).foreground = upper.foreground.or lower.foreground := by
  simp only [foreground, overrideStyle, layer, pickColor_eq_or, filter_isVisible_or]

theorem background_overrideStyle (lower upper : Style) :
    (lower.overrideStyle upper).background = upper.background.or lower.background := by
  simp only [background, overrideStyle, layer, pickColor_eq_or, filter_isVisible_or]

theorem transformed_overrideStyle (lower upper : Style) (t : Text) :
    (lower.overrideStyle upper).transformed t = upper.transformed (lower.transformed t) := by
  simp only [transformed, overrideStyle, layer]
  cases lower.transform <;> cases upper.transform <;> rfl

/-! ## Any number of styles -/

/-- A color of which the topmost one counts. -/
theorem color_foldl_overrideStyle {color : Style → Option Color}
    (h : ∀ lower upper, color (lower.overrideStyle upper) = (color upper).or (color lower))
    (base : Style) (styles : List Style) :
    color (styles.foldl overrideStyle base) = (styles.reverse.findSome? color).or (color base) := by
  induction styles generalizing base with
  | nil => rfl
  | cons style styles ih =>
    rw [List.foldl_cons, ih, h, List.reverse_cons, List.findSome?_append, Option.or_assoc]
    cases hcolor : color style <;> simp [List.findSome?, hcolor]

theorem attributes_foldl_overrideStyle (base : Style) (styles : List Style) :
    (styles.foldl overrideStyle base).attributes =
      (styles.map (·.attributes)).foldl Attributes.union base.attributes := by
  rw [List.foldl_map]
  exact (List.foldl_hom Style.attributes fun _ _ => rfl).symm

theorem transformed_foldl_overrideStyle (base : Style) (styles : List Style) (t : Text) :
    (styles.foldl overrideStyle base).transformed t =
      styles.foldl (fun t style => style.transformed t) (base.transformed t) :=
  (List.foldl_hom (fun style => style.transformed t) fun lower upper =>
    (transformed_overrideStyle lower upper t).symm).symm

end Style

end YamlListing

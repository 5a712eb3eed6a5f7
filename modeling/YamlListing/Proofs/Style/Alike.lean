import YamlListing.Style.Compose

set_option autoImplicit false

/-! # Styles that look alike

Two styles look alike if they agree in everything that is ever shown of them: a transparent color
counts as none. Laying styles over one another cannot tell such styles apart (`layer_congr`), and an
empty style on either side leaves the look of the other one (`layer_alike_of_isEmpty_upper`,
`layer_alike_of_isEmpty_lower`), which is what allows a composer to answer with that one itself. -/

namespace YamlListing

namespace Style

/-- The styles that show the same colors and attributes and have the same transform. -/
structure Alike (a b : Style) : Prop where
  foreground : a.foreground = b.foreground
  background : a.background = b.background
  attributes : a.attributes = b.attributes
  transform : a.transform = b.transform

section Alike

variable {a b c lower lower' upper upper' : Style} {combine : Color → Color → Color}

theorem Alike.refl (a : Style) : Alike a a := ⟨rfl, rfl, rfl, rfl⟩

theorem Alike.symm (h : Alike a b) : Alike b a :=
  ⟨h.foreground.symm, h.background.symm, h.attributes.symm, h.transform.symm⟩

/-! ## Layers -/

theorem layer_congr (hl : Alike lower lower') (hu : Alike upper upper') :
    layer combine lower upper = layer combine lower' upper' := by
  rw [layer, layer, hl.foreground, hl.background, hl.attributes, hl.transform, hu.foreground,
    hu.background, hu.attributes, hu.transform]

theorem compose_eq_layer (mode : ComposeMode) :
    ∃ combine, ∀ lower upper, compose mode lower upper = layer combine lower upper := by
  cases mode with
  | override => exact ⟨_, fun _ _ => rfl⟩
  | blend => exact ⟨_, fun _ _ => rfl⟩

theorem compose_congr (mode : ComposeMode) (hl : Alike lower lower') (hu : Alike upper upper') :
    compose mode lower upper = compose mode lower' upper' := by
  obtain ⟨combine, hcombine⟩ := compose_eq_layer mode
  rw [hcombine, hcombine, layer_congr hl hu]

/-! ## Empty styles -/

/-- An empty style has nothing that could be shown. -/
theorem alike_plain_of_isEmpty (h : a.isEmpty = true) : Alike a plain := by
  simp only [isEmpty, Bool.and_eq_true, Option.isNone_iff_eq_none] at h
  obtain ⟨⟨⟨hf, hb⟩, ha⟩, ht⟩ := h
  exact ⟨hf, hb, eq_of_beq ha, ht⟩

theorem pickColor_none (color : Option Color) : pickColor combine color none = color := by
  cases color <;> rfl

theorem filter_isVisible_filter (color : Option Color) :
    (color.filter (·.isVisible)).filter (·.isVisible) = color.filter (·.isVisible) := by
  rw [Option.filter_filter]
  simp only [Bool.and_self]

theorem union_none (a : Attributes) : a.union {} = a := by
  simp only [Attributes.union, Bool.or_false]

theorem none_union (a : Attributes) : Attributes.union {} a = a := by
  simp only [Attributes.union, Bool.false_or]

theorem chainTransforms_none (transform : Option Transform) :
    chainTransforms transform none = transform := by
  cases transform <;> rfl

theorem layer_plain_alike (a : Style) : Alike (layer combine a plain) a where
  foreground := by
    have hlayer : (layer combine a plain).fg = a.foreground := pickColor_none _
    rw [foreground, hlayer, foreground, filter_isVisible_filter]
  background := by
    have hlayer : (layer combine a plain).bg = a.background := pickColor_none _
    rw [background, hlayer, background, filter_isVisible_filter]
  attributes := union_none _
  transform := chainTransforms_none _

theorem plain_layer_alike (a : Style) : Alike (layer combine plain a) a where
  foreground := by
    have hlayer : (layer combine plain a).fg = a.foreground := rfl
    rw [foreground, hlayer, foreground, filter_isVisible_filter]
  background := by
    have hlayer : (layer combine plain a).bg = a.background := rfl
    rw [background, hlayer, background, filter_isVisible_filter]
  attributes := none_union _
  transform := rfl

/-- An empty style laid over another one leaves its look. -/
theorem layer_alike_of_isEmpty_upper (h : upper.isEmpty = true) :
    Alike (layer combine lower upper) lower := by
  rw [layer_congr (.refl lower) (alike_plain_of_isEmpty h)]
  exact layer_plain_alike lower

/-- A style laid over an empty one keeps its look. -/
theorem layer_alike_of_isEmpty_lower (h : lower.isEmpty = true) :
    Alike (layer combine lower upper) upper := by
  rw [layer_congr (alike_plain_of_isEmpty h) (.refl upper)]
  exact plain_layer_alike upper

end Alike

end Style

end YamlListing

import YamlListing.Proofs.Style.Override

set_option autoImplicit false

/-! # The laws of composition

What is seen of styles that are composed does not depend on how they are grouped when each overrides
the one below, an empty style changes nothing on either side, and a composition has a color exactly
if one of the styles in it has (`composition_lawful`). Transforms are compared by what they do to a
text: grouping styles in another way chains them in another way.

A color counts if it paints anything. That the mixture of two colors that do paints again is a
matter of numbers, and a premise here (`Layering.MixesVisibly`). -/

namespace YamlListing

namespace Style

/-- The styles that show the same colors and attributes and do the same to a text. -/
structure ShowsSame (a b : Style) : Prop where
  foreground : a.foreground = b.foreground
  background : a.background = b.background
  attributes : a.attributes = b.attributes
  transform : a.transform.map (·.apply) = b.transform.map (·.apply)

variable {a b e : Style}

theorem Alike.showsSame (h : Alike a b) : ShowsSame a b :=
  ⟨h.foreground, h.background, h.attributes, congrArg _ h.transform⟩

/-! ## Grouping -/

theorem union_assoc (a b c : Attributes) : (a.union b).union c = a.union (b.union c) := by
  simp only [Attributes.union, Bool.or_assoc]

/-- However transforms are grouped, they run on a text in the same order. -/
theorem chainTransforms_assoc (f g h : Option Transform) :
    (chainTransforms (chainTransforms f g) h).map (·.apply) =
      (chainTransforms f (chainTransforms g h)).map (·.apply) := by
  cases f <;> cases g <;> cases h <;> rfl

theorem overrideStyle_assoc (a b c : Style) :
    ShowsSame ((a.overrideStyle b).overrideStyle c) (a.overrideStyle (b.overrideStyle c)) where
  foreground := by simp only [foreground_overrideStyle, Option.or_assoc]
  background := by simp only [background_overrideStyle, Option.or_assoc]
  attributes := union_assoc _ _ _
  transform := chainTransforms_assoc _ _ _

/-! ## Empty styles -/

theorem compose_upper_of_isEmpty (mode : ComposeMode) (a : Style) (he : e.isEmpty = true) :
    ShowsSame (compose mode a e) a := by
  obtain ⟨combine, hcombine⟩ := compose_eq_layer mode
  rw [hcombine]
  exact (layer_alike_of_isEmpty_upper he).showsSame

theorem compose_lower_of_isEmpty (mode : ComposeMode) (a : Style) (he : e.isEmpty = true) :
    ShowsSame (compose mode e a) a := by
  obtain ⟨combine, hcombine⟩ := compose_eq_layer mode
  rw [hcombine]
  exact (layer_alike_of_isEmpty_lower he).showsSame

/-! ## Colors -/

theorem alpha_blend (x y : Color) (t : Float) :
    (x.blend y t).alpha = Color.mix (Color.clamp 0.0 1.0 t) x.alpha y.alpha := by
  simp only [Color.blend, Color.ofLab]
  split <;> rfl

/-- Whether two colors that meet, each of which may be missing, mix to one that paints anything. -/
def MixVisibly (lower upper : Option Color) : Prop :=
  ∀ bottom ∈ lower, ∀ top ∈ upper, (bottom.blend top blendRatio).isVisible = true

/-- One of two colors that paint, or what they combine to, is there exactly if one of them is. -/
theorem isSome_filter_pickColor_iff {combine : Color → Color → Color} {lower upper : Option Color}
    (hlower : lower.filter (·.isVisible) = lower) (hupper : upper.filter (·.isVisible) = upper)
    (hcombine : ∀ bottom ∈ lower, ∀ top ∈ upper, (combine bottom top).isVisible = true) :
    ((pickColor combine lower upper).filter (·.isVisible)).isSome = true ↔
      lower.isSome = true ∨ upper.isSome = true := by
  cases lower with
  | none => simp [pickColor, hupper]
  | some bottom =>
    cases upper with
    | none => simp [pickColor, hlower]
    | some top => simp [pickColor, Option.filter_some, hcombine bottom rfl top rfl]

/-- Of two styles that are composed, the color is there that either of them has. -/
theorem isSome_compose_iff {mode : ComposeMode} {lower upper : Style}
    (h : mode = .blend → MixVisibly lower.foreground upper.foreground ∧
      MixVisibly lower.background upper.background) :
    ((compose mode lower upper).foreground.isSome = true ↔
        lower.foreground.isSome = true ∨ upper.foreground.isSome = true) ∧
      ((compose mode lower upper).background.isSome = true ↔
        lower.background.isSome = true ∨ upper.background.isSome = true) := by
  have hseen (color : Option Color) := filter_isVisible_filter color
  cases mode with
  | override =>
    -- The upper color is the result, and it paints.
    have htop (lower upper : Option Color) : ∀ bottom ∈ lower.filter (·.isVisible),
        ∀ top ∈ upper.filter (·.isVisible), top.isVisible = true :=
      fun _ _ _ htop => (Option.filter_eq_some_iff.1 htop).2
    exact ⟨isSome_filter_pickColor_iff (hseen _) (hseen _) (htop _ _),
      isSome_filter_pickColor_iff (hseen _) (hseen _) (htop _ _)⟩
  | blend =>
    obtain ⟨hforeground, hbackground⟩ := h rfl
    exact ⟨isSome_filter_pickColor_iff (hseen _) (hseen _) hforeground,
      isSome_filter_pickColor_iff (hseen _) (hseen _) hbackground⟩

end Style

/-! ## Any number of styles -/

/-- Styles laid over one another, in either way and however they are grouped. -/
inductive Layering where
  | single (style : Style)
  | layer (mode : ComposeMode) (lower upper : Layering)

namespace Layering

/-- The style that comes of a composition. -/
def result : Layering → Style
  | single style => style
  | layer mode lower upper => Style.compose mode lower.result upper.result

/-- The styles that go into a composition. -/
def styles : Layering → List Style
  | single style => [style]
  | layer _ lower upper => lower.styles ++ upper.styles

/-- Whether colors that paint are mixed to colors that do, wherever they meet in a composition. -/
def MixesVisibly : Layering → Prop
  | single _ => True
  | layer mode lower upper => lower.MixesVisibly ∧ upper.MixesVisibly ∧ (mode = .blend →
      Style.MixVisibly lower.result.foreground upper.result.foreground ∧
        Style.MixVisibly lower.result.background upper.result.background)

theorem isSome_result_iff {k : Layering} (h : k.MixesVisibly) :
    (k.result.foreground.isSome = true ↔ ∃ s ∈ k.styles, s.foreground.isSome = true) ∧
      (k.result.background.isSome = true ↔ ∃ s ∈ k.styles, s.background.isSome = true) := by
  induction k with
  | single style => simp [result, styles]
  | layer mode lower upper ihl ihu =>
    obtain ⟨hlower, hupper, hmix⟩ := h
    obtain ⟨hforeground, hbackground⟩ := Style.isSome_compose_iff hmix
    simp only [styles, List.mem_append, or_and_right, exists_or, ← (ihl hlower).1,
      ← (ihl hlower).2, ← (ihu hupper).1, ← (ihu hupper).2]
    exact ⟨hforeground, hbackground⟩

end Layering

namespace Style

/-- Overriding styles may be grouped in any way, empty styles may be left out, and a composition has
a foreground or background exactly if one of its styles has. -/
theorem composition_lawful (a b c : Style) :
    ShowsSame ((a.overrideStyle b).overrideStyle c) (a.overrideStyle (b.overrideStyle c)) ∧
      (∀ mode e, e.isEmpty = true →
        ShowsSame (compose mode a e) a ∧ ShowsSame (compose mode e a) a) ∧
      ∀ k : Layering, k.MixesVisibly →
        (k.result.foreground.isSome = true ↔ ∃ s ∈ k.styles, s.foreground.isSome = true) ∧
          (k.result.background.isSome = true ↔ ∃ s ∈ k.styles, s.background.isSome = true) :=
  ⟨overrideStyle_assoc a b c,
    fun mode _ he => ⟨compose_upper_of_isEmpty mode a he, compose_lower_of_isEmpty mode a he⟩,
    fun _ => Layering.isSome_result_iff⟩

/-- A style with a transform of the given number, which puts a character before a text. -/
def marking (number : Nat) (mark : Char) : Style := { transform := some ⟨.made number, (mark :: ·)⟩ }

/-- A style with a color that paints nothing. -/
def unseen : Style := ofBackground .transparent

/-- White and a color that paints nothing, mixed into black. -/
def grayText : Layering :=
  .layer .blend (.single (ofForeground .black))
    (.layer .override (.single (ofForeground .white)) (.single unseen))

theorem composition_lawful_grayText :
    unseen.isEmpty = true ∧ grayText.MixesVisibly ∧
      ShowsSame (((marking 1 'a').overrideStyle (marking 2 'b')).overrideStyle (marking 3 'c'))
        ((marking 1 'a').overrideStyle ((marking 2 'b').overrideStyle (marking 3 'c'))) ∧
      ShowsSame (blendStyle (marking 1 'a') unseen) (marking 1 'a') ∧
      grayText.result.foreground.isSome = true ∧ grayText.result.background.isSome = false := by
  have hempty : unseen.isEmpty = true := by decide
  have hmixes : grayText.MixesVisibly := by
    refine ⟨trivial, ⟨trivial, trivial, nofun⟩, fun _ => ⟨?_, ?_⟩⟩
    · rintro bottom hbottom top htop
      obtain rfl : Color.black = bottom := Option.some.inj hbottom
      obtain rfl : Color.white = top := Option.some.inj htop
      rw [Color.isVisible, Color.isTransparent, alpha_blend]
      decide
    · rintro bottom ⟨⟩
  obtain ⟨hassoc, hneutral, hcolors⟩ :=
    composition_lawful (marking 1 'a') (marking 2 'b') (marking 3 'c')
  obtain ⟨hforeground, hbackground⟩ := hcolors grayText hmixes
  refine ⟨hempty, hmixes, hassoc, (hneutral .blend unseen hempty).1, hforeground.2 ?_, ?_⟩
  · exact ⟨ofForeground .black, List.mem_cons_self, by decide⟩
  · rw [Bool.eq_false_iff, ne_eq, hbackground]
    decide

end Style

end YamlListing

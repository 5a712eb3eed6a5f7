import Mathlib.Data.List.Basic
import YamlListing.Proofs.Theme.Inheritance
import YamlListing.Settings.Theme

set_option autoImplicit false

/-! # A style of one's own for a category

Settings can give a style to a single category of a theme. It takes the place of the style that the
theme gives to this category, and so it is laid over what the category inherits
(`Styles.style_withOverrides_self`). Main statement (`Settings.resolve_of_tweaksOnly`): this is the
look that the theme itself has for the category with the new style on top exactly if the new style
hides the one that it takes the place of (`Style.Hides`), for instance if the theme gives none. A
theme that makes comments dim and italic loses both to settings that make them bold
(`Settings.not_resolve_layers`). -/

namespace YamlListing

/-! ## Styles that are hidden by others -/

namespace Style

/-- Whether a style makes no difference between one below it and one above it. -/
structure Hides (upper own lower : Style) : Prop where
  foreground : upper.foreground.isSome = true ∨ own.foreground = none ∨
    own.foreground = lower.foreground
  background : upper.background.isSome = true ∨ own.background = none ∨
    own.background = lower.background
  /-- It has no attribute that neither of the others has. -/
  attributes : own.attributes.union (lower.attributes.union upper.attributes) =
    lower.attributes.union upper.attributes
  transform : own.transform = none

theorem union_left_comm (a b c : Attributes) : (a.union b).union c = b.union (a.union c) := by
  simp only [Attributes.union, Bool.or_assoc, Bool.or_left_comm]

theorem or_or_eq_iff {α : Type} {upper own lower : Option α} :
    upper.or (own.or lower) = upper.or lower ↔ upper.isSome = true ∨ own = none ∨ own = lower := by
  cases upper <;> cases own <;> simp

/-- A chain is longer than either of its parts. -/
theorem chain_ne (inner outer : TransformId) :
    TransformId.chain inner outer ≠ inner ∧ TransformId.chain inner outer ≠ outer := by
  have hsize := TransformId.chain.sizeOf_spec inner outer
  constructor
  · intro h
    rw [h] at hsize
    omega
  · intro h
    rw [h] at hsize
    omega

theorem chainTransforms_chainTransforms_eq_iff {lower own upper : Option Transform} :
    chainTransforms (chainTransforms lower own) upper = chainTransforms lower upper ↔
      own = none := by
  refine ⟨fun h => ?_, by rintro rfl; rw [chainTransforms_none]⟩
  cases own with
  | none => rfl
  | some own =>
    have hid := congrArg (Option.map Transform.id) h
    cases lower with
    | none =>
      cases upper with
      | none => cases hid
      | some upper => exact absurd (Option.some.inj hid) (chain_ne own.id upper.id).2
    | some lower =>
      have hlower := (chain_ne lower.id own.id).1
      cases upper with
      | none => exact absurd (Option.some.inj hid) hlower
      | some upper => exact absurd (TransformId.chain.inj (Option.some.inj hid)).1 hlower

theorem overrideStyle_eq (lower upper : Style) :
    lower.overrideStyle upper = ⟨upper.foreground.or lower.foreground,
      upper.background.or lower.background, lower.attributes.union upper.attributes,
      chainTransforms lower.transform upper.transform⟩ := by
  simp only [overrideStyle, layer, pickColor_eq_or]

theorem overrideStyle_overrideStyle_eq_iff {lower own upper : Style} :
    (lower.overrideStyle own).overrideStyle upper = lower.overrideStyle upper ↔
      upper.Hides own lower := by
  have hunion : (lower.overrideStyle own).attributes.union upper.attributes =
      own.attributes.union (lower.attributes.union upper.attributes) := union_left_comm _ _ _
  have htransform : chainTransforms (lower.overrideStyle own).transform upper.transform =
      chainTransforms lower.transform upper.transform ↔ own.transform = none :=
    chainTransforms_chainTransforms_eq_iff
  rw [overrideStyle_eq, overrideStyle_eq lower upper, Style.mk.injEq, foreground_overrideStyle,
    background_overrideStyle, or_or_eq_iff, or_or_eq_iff, hunion, htransform]
  constructor
  · rintro ⟨hforeground, hbackground, hattributes, hnone⟩
    exact ⟨hforeground, hbackground, hattributes, hnone⟩
  · intro h
    exact ⟨h.foreground, h.background, h.attributes, h.transform⟩

end Style

/-! ## Themes with one more style -/

namespace Category

theorem index_le_of_mem_path {c d : Category} (h : d ∈ c.path) : d.index ≤ c.index := by
  induction c using ancestors.induct with
  | case1 c hroot ih =>
    rw [path_of_parent hroot, List.mem_append, List.mem_singleton] at h
    obtain hparent | rfl := h
    · exact Nat.le_trans (ih hparent) (Nat.le_of_lt (parent_lt hroot))
    · exact Nat.le_refl _
  | case2 c hroot =>
    rw [path_of_isRoot (by rwa [Bool.not_eq_false] at hroot), List.mem_singleton] at h
    exact Nat.le_of_eq (congrArg index h)

end Category

namespace Styles

variable {s : Styles} {c d : Category} {id : Nat} {own tweak : Style}

/-- What a category would look like without a style of its own. -/
def inherited (s : Styles) (c : Category) : Style :=
  if c.isRoot = true then s.base else s.style c.parent

theorem style_eq_inherited (hown : s.own? c = none) : s.style c = s.inherited c := by
  cases hroot : c.isRoot with
  | true => rw [inherited, if_pos hroot, style_of_isRoot hroot, hown]; rfl
  | false => rw [inherited, hroot, if_neg Bool.false_ne_true, style_of_inherited hroot hown]

theorem style_eq_overrideStyle (hown : s.own? c = some own) :
    s.style c = (s.inherited c).overrideStyle own := by
  cases hroot : c.isRoot with
  | true => rw [inherited, if_pos hroot, style_of_isRoot hroot, hown]; rfl
  | false => rw [inherited, hroot, if_neg Bool.false_ne_true, style_of_own hroot hown]

theorem lastGiven_concat_self (given : List (Category × Style)) (c : Category) (tweak : Style) :
    lastGiven (given ++ [(c, tweak)]) c = some tweak := by
  have hself : [(c, tweak)].filter (·.1 == c) = [(c, tweak)] :=
    List.filter_cons_of_pos (beq_self_eq_true c)
  rw [lastGiven, List.filter_append, hself, List.getLast?_concat]
  rfl

theorem lastGiven_concat_of_ne (given : List (Category × Style)) (tweak : Style) (h : d ≠ c) :
    lastGiven (given ++ [(c, tweak)]) d = lastGiven given d := by
  have hother : [(c, tweak)].filter (·.1 == d) = [] :=
    List.filter_cons_of_neg (by simpa using h.symm)
  rw [lastGiven, List.filter_append, hother, List.append_nil, lastGiven]

/-- One more style matters only to its category and to those below it. -/
theorem style_withOverrides_of_notMem_path (h : c ∉ d.path) :
    (s.withOverrides id [(c, tweak)]).style d = s.style d := by
  rw [style_eq_foldl, style_eq_foldl, givenTo, givenTo]
  refine congrArg (List.foldl _ s.base) (List.filterMap_congr fun e he => ?_)
  exact lastGiven_concat_of_ne s.overrides tweak fun heq => h (heq ▸ he)

theorem inherited_withOverrides :
    (s.withOverrides id [(c, tweak)]).inherited c = s.inherited c := by
  cases hroot : c.isRoot with
  | true => rw [inherited, inherited, if_pos hroot, if_pos hroot]; rfl
  | false =>
    rw [inherited, inherited, hroot, if_neg Bool.false_ne_true, if_neg Bool.false_ne_true]
    refine style_withOverrides_of_notMem_path fun hmem => ?_
    exact Nat.not_le.2 (Category.parent_lt hroot) (Category.index_le_of_mem_path hmem)

/-- The style takes the place of the one that the theme gave. -/
theorem style_withOverrides_self :
    (s.withOverrides id [(c, tweak)]).style c = (s.inherited c).overrideStyle tweak := by
  have hown : (s.withOverrides id [(c, tweak)]).own? c = some tweak := by
    rw [own?_eq_lastGiven]
    exact lastGiven_concat_self s.overrides c tweak
  rw [style_eq_overrideStyle hown, inherited_withOverrides]

/-- How a theme with one more style looks beside the theme without it. -/
structure TweakedFrom (styles theme : Styles) (c : Category) (tweak : Style) : Prop where
  self : styles.style c = (theme.inherited c).overrideStyle tweak
  others : ∀ d, c ∉ d.path → styles.style d = theme.style d
  layer_iff : styles.style c = (theme.style c).overrideStyle tweak ↔
    ∀ own, theme.own? c = some own → tweak.Hides own (theme.inherited c)

theorem withOverrides_tweakedFrom :
    (s.withOverrides id [(c, tweak)]).TweakedFrom s c tweak where
  self := style_withOverrides_self
  others _ := style_withOverrides_of_notMem_path
  layer_iff := by
    rw [style_withOverrides_self]
    cases hown : s.own? c with
    | none => simp [style_eq_inherited hown]
    | some own =>
      rw [style_eq_overrideStyle hown, eq_comm, Style.overrideStyle_overrideStyle_eq_iff]
      simp

end Styles

/-! ## Settings with one style -/

namespace Settings

variable {s : Settings} {asked : Option String} {r : Registry} {theme : Styles} {c : Category}
  {tweak : Style}

/-- Whether settings ask for a theme that is registered. -/
def Finds (s : Settings) (asked : Option String) (r : Registry) (theme : Styles) : Prop :=
  ∃ custom, s.customPalette = .ok custom ∧
    ((registerCustom r custom).lookup (s.themeName asked)).1 = some theme

/-- Whether settings give a style to a single category. -/
def TweaksOnly (s : Settings) (c : Category) (tweak : Style) : Prop :=
  ∃ name style, s.styles = [(name, style)] ∧ Category.ofName? name = some c ∧
    style.style = .ok tweak

theorem TweaksOnly.tweaks_eq (h : s.TweaksOnly c tweak) : s.tweaks = .ok [(c, tweak)] := by
  obtain ⟨name, style, hstyles, hname, hstyle⟩ := h
  rw [tweaks, hstyles, List.mapM_cons, List.mapM_nil]
  simp only [hname, hstyle]
  rfl

/-- The theme is given the style as one more. -/
theorem exists_resolve_eq (htheme : s.Finds asked r theme) (htweak : s.TweaksOnly c tweak) :
    ∃ id, (s.resolve asked r).1 = .ok (theme.withOverrides id [(c, tweak)]) := by
  obtain ⟨custom, hcustom, hlookup⟩ := htheme
  have hstyles : s.styles.isEmpty = false := by
    obtain ⟨name, style, hstyles, -⟩ := htweak
    rw [hstyles]
    rfl
  rw [resolve, hcustom]
  dsimp only
  rw [resolveRegistered]
  rcases hfound : (registerCustom r custom).lookup (s.themeName asked) with ⟨_ | found, r'⟩
  · rw [hfound] at hlookup
    cases hlookup
  · rw [hfound] at hlookup
    obtain rfl : found = theme := Option.some.inj hlookup
    simp only [hstyles, htweak.tweaks_eq]
    exact ⟨_, rfl⟩

/-- Settings with a style for a single category lay it over what the category inherits in the theme.
That is the look of the theme with the style on top if and only if the style hides the one that the
theme gives to the category. Categories that are not below this one look as they did. -/
theorem resolve_of_tweaksOnly (htheme : s.Finds asked r theme) (htweak : s.TweaksOnly c tweak) :
    ∃ styles, (s.resolve asked r).1 = .ok styles ∧ styles.TweakedFrom theme c tweak := by
  obtain ⟨id, hresolve⟩ := exists_resolve_eq htheme htweak
  exact ⟨_, hresolve, Styles.withOverrides_tweakedFrom⟩

/-- Settings that ask for the theme without colors, with bold comments. -/
def boldComments : Settings :=
  { theme := some "mono", styles := [("comment", { bold := true })] }

theorem finds_boldComments : boldComments.Finds none .builtin (Builtin.mono 1) := ⟨none, rfl, rfl⟩

theorem tweaksOnly_boldComments : boldComments.TweaksOnly .comment Style.plain.bold :=
  ⟨"comment", { bold := true }, rfl, by decide, rfl⟩

theorem resolve_boldComments :
    ∃ styles, (boldComments.resolve none .builtin).1 = .ok styles ∧
      styles.TweakedFrom (Builtin.mono 1) .comment Style.plain.bold :=
  resolve_of_tweaksOnly finds_boldComments tweaksOnly_boldComments

/-- Comments are no longer dim and italic, as the theme has them. -/
theorem not_resolve_layers :
    ¬ ∀ (s : Settings) (asked : Option String) (r : Registry) (theme : Styles) (c : Category)
        (tweak : Style), s.Finds asked r theme → s.TweaksOnly c tweak →
      ∃ styles, (s.resolve asked r).1 = .ok styles ∧
        styles.style c = (theme.style c).overrideStyle tweak := by
  intro h
  obtain ⟨styles, hstyles, hlayers⟩ :=
    h _ _ _ _ _ _ finds_boldComments tweaksOnly_boldComments
  obtain ⟨id, hresolve⟩ := exists_resolve_eq finds_boldComments tweaksOnly_boldComments
  rw [hresolve] at hstyles
  obtain rfl := Except.ok.inj hstyles
  have hinherited : (Builtin.mono 1).inherited .comment = .plain := Styles.style_text rfl
  have hhides := Styles.withOverrides_tweakedFrom.layer_iff.1 hlayers _ rfl
  rw [hinherited] at hhides
  exact absurd hhides.attributes (by decide)

end Settings

end YamlListing

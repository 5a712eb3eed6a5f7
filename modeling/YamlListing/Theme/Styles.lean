import YamlListing.Category
import YamlListing.Style.Compose

set_option autoImplicit false

/-! # The styles of a theme

A theme gives a base style and, for some categories, a style of their own. What a category looks like
is resolved down the tree: its own style is laid over what its parent looks like, and a category
without one looks exactly like its parent.

A listing has to know where the look of text changes. It compares handles: a style together with an
identity. Two categories have the same handle exactly when neither has a style of its own below
their common ancestor. -/

namespace YamlListing

/-- Where a style comes from. -/
inductive HandleId where
  /-- A style that was given, by its number. -/
  | given (number : Nat)
  /-- The style that a theme resolves for the category that brought it in. -/
  | entry (theme : Nat) (owner : Category)
  /-- A composition, by its number. -/
  | composed (number : Nat)
  deriving DecidableEq, Repr

/-- A style with an identity. -/
structure Handle where
  id : HandleId
  style : Style

namespace Handle

/-- Whether two handles are one and the same. -/
def same (a b : Handle) : Bool := a.id == b.id

end Handle

/-- A base style and styles of categories; of several for one category the last one counts. Themes
    are told apart by a number. -/
structure Styles where
  id : Nat
  base : Style
  overrides : List (Category × Style)

namespace Styles

/-- The style of its own that a category has. -/
def own? (s : Styles) (c : Category) : Option Style :=
  (s.overrides.reverse.find? fun entry => entry.1 == c).map Prod.snd

/-- Whether a category has a style of its own. -/
def isDefined (s : Styles) (c : Category) : Bool := (s.own? c).isSome

/-- The same theme with further styles, as a theme of its own. -/
def withOverrides (s : Styles) (id : Nat) (overrides : List (Category × Style)) : Styles :=
  ⟨id, s.base, s.overrides ++ overrides⟩

/-- What a category looks like. -/
def handle (s : Styles) (c : Category) : Handle :=
  if _ : c.isRoot = false then
    match s.own? c with
    | none => s.handle c.parent
    | some own => ⟨.entry s.id c, (s.handle c.parent).style.overrideStyle own⟩
  else
    ⟨.entry s.id .text, match s.own? c with
      | none => s.base
      | some own => s.base.overrideStyle own⟩
termination_by c.index
decreasing_by all_goals exact Category.parent_lt ‹_›

/-- The style of a category. -/
def style (s : Styles) (c : Category) : Style := (s.handle c).style

/-- The first category that has the same handle. -/
def owner (s : Styles) (c : Category) : Category :=
  (Category.all.find? fun d => (s.handle d).same (s.handle c)).getD c

end Styles

end YamlListing

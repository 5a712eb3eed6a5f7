import YamlListing.Color.Cell
import YamlListing.Text.Quoted

set_option autoImplicit false

/-! # Styles

A style is what a run of text looks like: perhaps a foreground and a background, attributes, and
perhaps a transform of the text itself. A transparent color is the same as no color
(`Style.foreground`, `Style.background`).

Two transforms are told apart by where they come from and not by what they do, which no program can
decide: each has an identity of its own. -/

namespace YamlListing

/-! ## Attributes -/

/-- Text attributes of a terminal. -/
structure Attributes where
  bold : Bool := false
  dim : Bool := false
  italic : Bool := false
  underline : Bool := false
  inverse : Bool := false
  strikethrough : Bool := false
  deriving DecidableEq, Repr, Inhabited

namespace Attributes

/-- No attribute. -/
def none : Attributes := {}

/-- Whether no attribute is set. -/
def isNone (a : Attributes) : Bool := a == none

/-- The attributes that either of two sets has. -/
def union (a b : Attributes) : Attributes :=
  ⟨a.bold || b.bold, a.dim || b.dim, a.italic || b.italic, a.underline || b.underline,
   a.inverse || b.inverse, a.strikethrough || b.strikethrough⟩

/-- A label for each attribute that is set, given the labels of all six in order. -/
def labels {α : Type} (a : Attributes) (bold dim italic underline inverse strikethrough : α) :
    List α :=
  [(a.bold, bold), (a.dim, dim), (a.italic, italic), (a.underline, underline),
    (a.inverse, inverse), (a.strikethrough, strikethrough)].filterMap fun (on, label) =>
      if on then some label else Option.none

end Attributes

/-! ## Transforms -/

/-- The identity of a transform: a number that its maker gave it, or the two that it chains. -/
inductive TransformId where
  | made (number : Nat)
  | chain (inner outer : TransformId)
  deriving DecidableEq, Repr

/-- A function on text with an identity. -/
structure Transform where
  id : TransformId
  apply : Text → Text

namespace Transform

/-- The transform that runs one and then another. -/
def andThen (inner outer : Transform) : Transform :=
  ⟨.chain inner.id outer.id, fun t => outer.apply (inner.apply t)⟩

/-- Whether two transforms are one and the same. -/
def same (a b : Transform) : Bool := a.id == b.id

end Transform

/-! ## Styles -/

/-- The look of a run of text. -/
structure Style where
  fg : Option Color := none
  bg : Option Color := none
  attributes : Attributes := {}
  transform : Option Transform := none

namespace Style

/-- The style that changes nothing. -/
def plain : Style := {}

/-- The foreground, if it paints anything. -/
def foreground (s : Style) : Option Color := s.fg.filter (·.isVisible)

/-- The background, if it paints anything. -/
def background (s : Style) : Option Color := s.bg.filter (·.isVisible)

/-- Whether a style changes nothing. -/
def isEmpty (s : Style) : Bool :=
  s.foreground.isNone && s.background.isNone && s.attributes.isNone && s.transform.isNone

/-- Whether a style changes more than the text itself. -/
def isVisible (s : Style) : Bool :=
  s.foreground.isSome || s.background.isSome || !s.attributes.isNone

/-- A text as the transform of a style leaves it. -/
def transformed (s : Style) (t : Text) : Text :=
  match s.transform with
  | some f => f.apply t
  | none => t

/-- Whether two colors that may be missing look the same. -/
def sameColor : Option Color → Option Color → Bool
  | none, none => true
  | some a, some b => a.same b
  | _, _ => false

/-- Whether two transforms that may be missing are one and the same. -/
def sameTransform : Option Transform → Option Transform → Bool
  | none, none => true
  | some a, some b => a.same b
  | _, _ => false

/-- Whether two styles look the same and have the very same transform. -/
def same (a b : Style) : Bool :=
  sameColor a.foreground b.foreground && sameColor a.background b.background &&
    a.attributes == b.attributes && sameTransform a.transform b.transform

/-! ## Making styles -/

/-- The style that paints text in a color. -/
def ofForeground (c : Color) : Style := { fg := some c }

/-- The style that paints the ground of text in a color. -/
def ofBackground (c : Color) : Style := { bg := some c }

/-- A style with a background. -/
def on (s : Style) (c : Color) : Style := { s with bg := some c }

/-- A bold style. -/
def bold (s : Style) : Style := { s with attributes := { s.attributes with bold := true } }

/-- A dim style. -/
def dim (s : Style) : Style := { s with attributes := { s.attributes with dim := true } }

/-- An italic style. -/
def italic (s : Style) : Style := { s with attributes := { s.attributes with italic := true } }

/-- An underlined style. -/
def underline (s : Style) : Style :=
  { s with attributes := { s.attributes with underline := true } }

/-- A style with foreground and background exchanged. -/
def inverse (s : Style) : Style := { s with attributes := { s.attributes with inverse := true } }

/-! ## Wording -/

/-- A style without transform as a value shown for inspection; what is absent is left out. -/
def inspect (s : Style) : String :=
  let hex (c : Color) : String := Text.quotedString (String.ofList c.toHex)
  let flags := s.attributes.labels "BOLD" "DIM" "ITALIC" "UNDERLINE" "INVERSE" "STRIKETHROUGH"
  let fields :=
    (s.foreground.map fun c => "fg: " ++ hex c).toList ++
    (s.background.map fun c => "bg: " ++ hex c).toList ++
    (if flags.isEmpty then [] else ["attrs: Attr(" ++ " | ".intercalate flags ++ ")"])
  if fields.isEmpty then "Style" else "Style \x7b " ++ ", ".intercalate fields ++ " \x7d"

end Style

end YamlListing

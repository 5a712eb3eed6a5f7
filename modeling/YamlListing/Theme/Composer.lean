import YamlListing.Theme.Styles

set_option autoImplicit false

/-! # Composing with memory

A composer lays one style handle over another and remembers the result, so that the same question
gets the very same handle as its answer. A listing relies on this: runs of text are cut where the
handle changes. A question names handles by their identities, so what is remembered keeps the handles
that it was made for: no other handle can get their identities in the meantime. -/

namespace YamlListing

/-- A question to a composer: the theme, the two handles and the way to lay one over the other. -/
structure ComposeKey where
  theme : Nat
  lower : HandleId
  upper : HandleId
  mode : ComposeMode
  deriving DecidableEq, Repr

/-- A composition with the two handles that it was made for. -/
structure Composition where
  lower : Handle
  upper : Handle
  result : Handle

/-- The remembered compositions and the number of the next one. -/
structure Composer where
  entries : List (ComposeKey × Composition)
  next : Nat

namespace Composer

/-- A composer that remembers nothing. -/
def empty : Composer := ⟨[], 0⟩

/-- The number of remembered compositions. -/
def length (c : Composer) : Nat := c.entries.length

/-- Whether nothing is remembered. -/
def isEmpty (c : Composer) : Bool := c.entries.isEmpty

/-- Forgets all compositions. -/
def clear (c : Composer) : Composer := { c with entries := [] }

/-- The composition that is remembered for a question. -/
def find? (c : Composer) (key : ComposeKey) : Option Composition :=
  (c.entries.find? fun entry => entry.1 == key).map Prod.snd

/-- Lays one handle over another, both of which exist. An empty style changes nothing: then the
    other handle itself is the answer. -/
def layer (c : Composer) (theme : Nat) (lower upper : Handle) (mode : ComposeMode) :
    Handle × Composer :=
  if upper.style.isEmpty then (lower, c)
  else if lower.style.isEmpty then (upper, c)
  else
    let key : ComposeKey := ⟨theme, lower.id, upper.id, mode⟩
    match c.find? key with
    | some composition => (composition.result, c)
    | none =>
      let result : Handle := ⟨.composed c.next, .compose mode lower.style upper.style⟩
      (result, ⟨c.entries ++ [(key, ⟨lower, upper, result⟩)], c.next + 1⟩)

/-- Lays one handle over another; if either is missing, the other one is the answer. -/
def blend (c : Composer) (theme : Nat) (lower upper : Option Handle) (mode : ComposeMode) :
    Option Handle × Composer :=
  match lower, upper with
  | none, none => (none, c)
  | some x, none => (some x, c)
  | none, some x => (some x, c)
  | some lower, some upper =>
    let (handle, c) := c.layer theme lower upper mode
    (some handle, c)

/-- A composer as a value shown for inspection. -/
def inspect (c : Composer) : String := "Composer \x7b entries: " ++ toString c.length ++ " \x7d"

end Composer

end YamlListing

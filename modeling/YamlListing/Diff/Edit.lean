set_option autoImplicit false

/-! # Edit scripts

An edit script turns the lines of an origin into those of a tip, keeping, deleting and inserting
lines. `Edit.flip` reads a step from the other side, `deletesFirst` reorders every run of changes so
that a replaced line reads as old, then new, and `distance` counts the changes. -/

namespace YamlListing

/-- One step of an edit script. Lines are counted from 1. -/
inductive Edit where
  | keep (origin tip : Nat)
  | delete (origin : Nat)
  | insert (tip : Nat)
  deriving DecidableEq, Repr

namespace Edit

/-- Whether a step changes anything. -/
def isChange : Edit → Bool
  | keep _ _ => false
  | delete _ => true
  | insert _ => true

/-- The same step seen from the other side: what was deleted is inserted. -/
def flip : Edit → Edit
  | keep origin tip => keep tip origin
  | delete origin => insert origin
  | insert tip => delete tip

@[simp] theorem flip_flip (e : Edit) : e.flip.flip = e := by cases e <;> rfl

@[simp] theorem isChange_flip (e : Edit) : e.flip.isChange = e.isChange := by cases e <;> rfl

/-- The same step with its line numbers moved on. -/
def shift (lines : Nat) : Edit → Edit
  | keep origin tip => keep (origin + lines) (tip + lines)
  | delete origin => delete (origin + lines)
  | insert tip => insert (tip + lines)

/-- Moves deletions ahead of insertions in every run of changes, given the insertions that were met
    in the current run. -/
def deletesFirstAfter (inserts : List Edit) : List Edit → List Edit
  | [] => inserts
  | keep origin tip :: rest => inserts ++ keep origin tip :: deletesFirstAfter [] rest
  | delete origin :: rest => delete origin :: deletesFirstAfter inserts rest
  | insert tip :: rest => deletesFirstAfter (inserts ++ [insert tip]) rest

/-- Moves deletions ahead of insertions in every run of changes; otherwise the order stays. -/
def deletesFirst (script : List Edit) : List Edit := deletesFirstAfter [] script

/-- The number of changes in a script. -/
def distance (script : List Edit) : Nat := script.countP isChange

end Edit

end YamlListing

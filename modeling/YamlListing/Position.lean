set_option autoImplicit false

/-! # Positions

A place in a text: a line and a column, both counted from 1, the column in characters. Positions are
ordered as they are read, by line and then by column. -/

namespace YamlListing

/-- A line and a column. -/
structure Position where
  line : Nat
  column : Nat
  deriving DecidableEq, Repr, Inhabited

namespace Position

/-- The first column of the first line. -/
def first : Position := ⟨1, 1⟩

/-- The first column of a line. -/
def lineStart (line : Nat) : Position := ⟨line, 1⟩

instance : LT Position where
  lt p q := p.line < q.line ∨ (p.line = q.line ∧ p.column < q.column)

instance : LE Position where
  le p q := p.line < q.line ∨ (p.line = q.line ∧ p.column ≤ q.column)

theorem lt_def (p q : Position) :
    p < q ↔ p.line < q.line ∨ (p.line = q.line ∧ p.column < q.column) := Iff.rfl

theorem le_def (p q : Position) :
    p ≤ q ↔ p.line < q.line ∨ (p.line = q.line ∧ p.column ≤ q.column) := Iff.rfl

instance (p q : Position) : Decidable (p < q) := decidable_of_iff _ (lt_def p q).symm

instance (p q : Position) : Decidable (p ≤ q) := decidable_of_iff _ (le_def p q).symm

instance : Max Position where
  max p q := if p ≤ q then q else p

instance : Min Position where
  min p q := if p ≤ q then p else q

theorem max_def (p q : Position) : max p q = if p ≤ q then q else p := rfl

theorem min_def (p q : Position) : min p q = if p ≤ q then p else q := rfl

/-- The order of two positions. -/
def compare (p q : Position) : Ordering :=
  (Ord.compare p.line q.line).then (Ord.compare p.column q.column)

/-- A position as `line:column`. -/
def toText (p : Position) : String := toString p.line ++ ":" ++ toString p.column

end Position

end YamlListing

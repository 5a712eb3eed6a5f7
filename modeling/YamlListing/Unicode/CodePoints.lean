set_option autoImplicit false

/-! # Sets and tables of code points

Character properties come as sorted, disjoint ranges of code points. `countWhile` finds by halving
how many leading entries of a sorted table satisfy a test, `lastAtMost?` the last entry that starts
at or before a key, and `CodePointSet.mem` decides membership. -/

namespace YamlListing.Unicode

/-- The number of leading indices below `hi` that satisfy `p`, given that those below `lo` do and
    that no index past the first failure does. Every step halves `hi - lo`, so `steps` need only be
    the binary length of that distance. -/
def countWhile (p : Nat → Bool) : (steps lo hi : Nat) → Nat
  | 0, lo, _ => lo
  | steps + 1, lo, hi =>
    if lo < hi then
      if p ((lo + hi) / 2) then countWhile p steps ((lo + hi) / 2 + 1) hi
      else countWhile p steps lo ((lo + hi) / 2)
    else lo

/-- The last entry of a table, sorted by `start`, that starts at or before `key`. -/
def lastAtMost? {α : Type} (start : α → Nat) (table : Array α) (key : Nat) : Option α :=
  let starts (i : Nat) : Bool := match table[i]? with
    | some entry => start entry ≤ key
    | none => false
  match countWhile starts (Nat.log2 table.size + 1) 0 table.size with
  | 0 => none
  | n + 1 => table[n]?

/-- A set of code points: sorted, disjoint ranges, both ends included. -/
structure CodePointSet where
  ranges : Array (Nat × Nat)

/-- Whether a character belongs to a set. -/
def CodePointSet.mem (s : CodePointSet) (c : Char) : Bool :=
  match lastAtMost? Prod.fst s.ranges c.toNat with
  | none => false
  | some (_, last) => c.toNat ≤ last

end YamlListing.Unicode

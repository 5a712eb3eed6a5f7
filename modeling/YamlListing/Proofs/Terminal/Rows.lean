import Mathlib.Data.List.Forall2
import YamlListing.Proofs.Terminal.Screen

set_option autoImplicit false

/-! # The rows of a terminal

A text that takes a terminal from the reset state back to it shows a row of its own, and such texts
with line feeds between them show their rows below one another (`rows_joinLines`). -/

namespace YamlListing.Terminal

/-- A text that shows some cells and leaves the terminal in the reset state. -/
def Shows (out : Text) (row : List Cell) : Prop :=
  ∀ shown, (Screen.outside .plain shown).read out = .outside .plain (shown ++ row)

/-- The cell of a line feed. -/
def lineFeed : Cell := ⟨'\n', .plain⟩

/-- Whether the cells of a row are all in that row. -/
def IsRow (row : List Cell) : Prop := ∀ cell ∈ row, cell.char ≠ '\n'

section rows

variable {out : Text} {row : List Cell} {outs : List Text} {rows : List (List Cell)}

theorem shows_nil : Shows [] [] := by
  intro shown
  rw [List.append_nil]
  rfl

theorem Shows.joinLines (h : List.Forall₂ Shows outs rows) :
    Shows (Text.joinLines outs) ([lineFeed].intercalate rows) := by
  induction h with
  | nil => exact shows_nil
  | @cons out row outs rows hrow hrest ih =>
    intro shown
    cases hrest with
    | nil =>
      rw [List.intercalate_singleton]
      exact hrow shown
    | cons _ _ =>
      have hfeed : (Screen.outside .plain (shown ++ row)).read ['\n'] =
          .outside .plain (shown ++ row ++ [lineFeed]) := rfl
      rw [List.intercalate_cons_cons, Text.joinLines, Text.joinWith, Screen.read_append,
        Screen.read_append, hrow, hfeed, ← List.append_assoc, ← List.append_assoc]
      exact ih _

/-- Cutting at line feeds gives rows back that were put together with line feeds. -/
theorem splitOnP_intercalate (hne : rows ≠ []) (h : ∀ row ∈ rows, IsRow row) :
    ([lineFeed].intercalate rows).splitOnP (·.char == '\n') = rows := by
  induction rows with
  | nil => exact absurd rfl hne
  | cons row rest ih =>
    have hrow : ∀ cell ∈ row, (cell.char == '\n') = false := fun cell hcell =>
      beq_eq_false_iff_ne.2 (h row List.mem_cons_self cell hcell)
    cases rest with
    | nil => rw [List.intercalate_singleton, List.splitOnP_eq_singleton hrow]
    | cons next rest =>
      rw [List.intercalate_cons_cons, List.append_assoc, List.singleton_append,
        List.splitOnP_append_cons_of_forall_mem hrow lineFeed rfl,
        ih (List.cons_ne_nil _ _) fun row hrow => h row (List.mem_cons_of_mem _ hrow)]

/-- Texts with line feeds between them show their rows below one another. -/
theorem rows_joinLines (h : List.Forall₂ Shows outs rows) (hne : rows ≠ [])
    (hrows : ∀ row ∈ rows, IsRow row) : (Screen.blank.read (Text.joinLines outs)).rows = rows := by
  rw [Screen.blank, Shows.joinLines h, List.nil_append]
  exact splitOnP_intercalate hne hrows

end rows

/-- The cell in a row and a column, both counted from 0. -/
def Screen.cell? (s : Screen) (row column : Nat) : Option Cell := (s.rows[row]?).bind (·[column]?)

end YamlListing.Terminal

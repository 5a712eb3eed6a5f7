import Mathlib.Data.List.Chain
import Mathlib.Data.List.TakeWhile
import YamlListing.Listing.Printer

set_option autoImplicit false

/-! # Runs of a line

Runs are cut where the handle changes and where something is inserted. Nothing is lost by this: put
together again, the runs of a line are its characters with their handles (`flatMap_cells_runsFrom`),
provided that an identity belongs to one handle. -/

namespace YamlListing.Run

/-- The characters of a run, each with the handle of the run. -/
def cells (r : Run) : List (Char × Handle) := r.text.map (·, r.handle)

/-- Whether an identity belongs to one handle among some cells. -/
def IdsTell (cells : List (Char × Handle)) : Prop :=
  ∀ a ∈ cells, ∀ b ∈ cells, a.2.id = b.2.id → a.2 = b.2

section runsFrom

variable {column due : Nat} {handle own : Handle} {c : Char} {inserts : List (Nat × Handle)}
  {cells rest : List (Char × Handle)} {limit : Option Nat}

theorem runsFrom_of_due (h : due ≤ column) :
    runsFrom column ((due, handle) :: inserts) cells =
      ⟨handle, []⟩ :: runsFrom column inserts cells := by
  rw [runsFrom.eq_def]
  exact if_pos h

theorem IdsTell.drop (h : IdsTell ((c, own) :: rest)) (n : Nat) : IdsTell (rest.drop n) :=
  fun a ha b hb => h a (List.mem_cons_of_mem _ (List.mem_of_mem_drop ha)) b
    (List.mem_cons_of_mem _ (List.mem_of_mem_drop hb))

/-- The cells that go on with a handle have its identity. -/
theorem id_eq_of_mem_take_extent {cell : Char × Handle}
    (h : cell ∈ cells.take (extent own limit cells)) : cell.2.id = own.id := by
  have hle : extent own limit cells ≤ (cells.takeWhile fun cell => cell.2.same own).length := by
    cases limit with
    | none => exact Nat.le_refl _
    | some limit => exact Nat.min_le_right _ _
  have htake : cells.take (extent own limit cells) =
      (cells.takeWhile fun cell => cell.2.same own).take (extent own limit cells) := by
    calc cells.take (extent own limit cells)
      _ = ((cells.takeWhile fun cell => cell.2.same own) ++
            cells.dropWhile fun cell => cell.2.same own).take (extent own limit cells) := by
        rw [List.takeWhile_append_dropWhile]
      _ = (cells.takeWhile fun cell => cell.2.same own).take (extent own limit cells) :=
        List.take_append_of_le_length hle
  rw [htake] at h
  have hsame := List.mem_takeWhile_imp (List.mem_of_mem_take h)
  exact eq_of_beq hsame

/-- A run takes the first cell and those that go on with its handle. -/
theorem cells_append_drop (h : IdsTell ((c, own) :: rest)) :
    Run.cells ⟨own, c :: (rest.take (extent own limit rest)).map Prod.fst⟩ ++
      rest.drop (extent own limit rest) = (c, own) :: rest := by
  have hown : ∀ cell ∈ rest.take (extent own limit rest), (cell.1, own) = id cell := by
    intro cell hcell
    have heq : cell.2 = own := h cell (List.mem_cons_of_mem _ (List.mem_of_mem_take hcell))
      (c, own) List.mem_cons_self (id_eq_of_mem_take_extent hcell)
    rw [← heq]
    rfl
  have htake : ((rest.take (extent own limit rest)).map Prod.fst).map (·, own) =
      rest.take (extent own limit rest) := by
    rw [List.map_map]
    exact (List.map_congr_left hown).trans (List.map_id _)
  rw [Run.cells, List.map_cons, htake, List.cons_append, List.take_append_drop]

/-- Put together again, the runs of cells are the cells. -/
theorem flatMap_cells_runsFrom (h : IdsTell cells) :
    (runsFrom column inserts cells).flatMap Run.cells = cells := by
  induction column, inserts, cells using runsFrom.induct with
  | case1 column due handle inserts cells hdue ih =>
    rw [runsFrom_of_due hdue, List.flatMap_cons]
    exact ih h
  | case2 column due handle inserts hdue => rw [runsFrom, if_neg hdue, List.flatMap_nil]
  | case3 column due handle inserts hdue c own rest n ih =>
    rw [runsFrom, if_neg hdue, List.flatMap_cons, ih (h.drop n)]
    exact cells_append_drop h
  | case4 column c own rest n ih =>
    rw [runsFrom, List.flatMap_cons, ih (h.drop n)]
    exact cells_append_drop h
  | case5 column => rw [runsFrom, List.flatMap_nil]

theorem map_fst_cells (r : Run) : r.cells.map Prod.fst = r.text := by
  rw [Run.cells, List.map_map]
  exact List.map_id _

/-- The texts of runs put together are the characters of their cells. -/
theorem flatten_map_text (runs : List Run) :
    (runs.map (·.text)).flatten = (runs.flatMap Run.cells).map Prod.fst := by
  induction runs with
  | nil => rfl
  | cons r runs ih =>
    rw [List.map_cons, List.flatten_cons, ih, List.flatMap_cons, List.map_append, map_fst_cells]

/-- Cells of one handle before cells that begin with another one are a run. -/
theorem runsFrom_cells_append (r : Run) (hne : r.text ≠ []) {cells : List (Char × Handle)}
    (hchange : ∀ cell ∈ cells.head?, cell.2.same r.handle = false) (column : Nat) :
    runsFrom column [] (r.cells ++ cells) =
      r :: runsFrom (column + r.text.length) [] cells := by
  obtain ⟨handle, text⟩ := r
  obtain ⟨c, text, rfl⟩ := List.exists_cons_of_ne_nil hne
  have hsame : ∀ cell ∈ text.map (·, handle), cell.2.same handle = true := by
    intro cell hcell
    obtain ⟨x, -, rfl⟩ := List.mem_map.1 hcell
    exact beq_self_eq_true handle.id
  have hstop : cells.takeWhile (fun cell => cell.2.same handle) = [] := by
    cases cells with
    | nil => rfl
    | cons cell cells => exact List.takeWhile_cons_of_neg (by simp [hchange cell rfl])
  have hextent : extent handle none (text.map (·, handle) ++ cells) = text.length := by
    simp only [extent]
    rw [List.takeWhile_append_of_pos hsame, hstop, List.append_nil, List.length_map]
  have hcells : Run.cells ⟨handle, c :: text⟩ ++ cells =
      (c, handle) :: (text.map (·, handle) ++ cells) := rfl
  have hlength : text.length = (text.map (·, handle)).length := (List.length_map _).symm
  have htext : (text.map (·, handle)).map Prod.fst = text := map_fst_cells ⟨handle, text⟩
  rw [hcells, runsFrom, hextent, hlength, List.take_left, List.drop_left, htext, List.length_map,
    List.length_cons, Nat.add_assoc, Nat.add_comm 1]

/-- Runs with texts, of which no two neighbours have one handle, are what their cells are cut into.
-/
theorem runsFrom_flatMap_cells (runs : List Run) (hne : ∀ r ∈ runs, r.text ≠ [])
    (hchange : runs.IsChain fun r next => next.handle.same r.handle = false) (column : Nat) :
    runsFrom column [] (runs.flatMap Run.cells) = runs := by
  induction runs generalizing column with
  | nil => rw [List.flatMap_nil, runsFrom]
  | cons r runs ih =>
    obtain ⟨hr, hne⟩ := List.forall_mem_cons.1 hne
    have hnext : ∀ cell ∈ (runs.flatMap Run.cells).head?, cell.2.same r.handle = false := by
      cases runs with
      | nil =>
        intro cell hcell
        cases hcell
      | cons next runs =>
        obtain ⟨handle, text⟩ := next
        obtain ⟨c, text, rfl⟩ := List.exists_cons_of_ne_nil (hne _ List.mem_cons_self)
        rintro _ ⟨⟩
        exact (List.isChain_cons_cons.1 hchange).1
    rw [List.flatMap_cons, runsFrom_cells_append r hr hnext, ih hne hchange.tail]

/-- The handle of a run is that of one of its cells or of an insertion. -/
theorem handle_of_mem_runsFrom {r : Run} (h : r ∈ runsFrom column inserts cells) :
    (∃ insert ∈ inserts, insert.2 = r.handle) ∨ ∃ cell ∈ cells, cell.2 = r.handle := by
  induction column, inserts, cells using runsFrom.induct with
  | case1 column due handle inserts cells hdue ih =>
    rw [runsFrom_of_due hdue] at h
    rcases List.mem_cons.1 h with rfl | h
    · exact Or.inl ⟨_, List.mem_cons_self, rfl⟩
    · exact (ih h).imp_left fun ⟨insert, hinsert, heq⟩ =>
        ⟨insert, List.mem_cons_of_mem _ hinsert, heq⟩
  | case2 column due handle inserts hdue =>
    rw [runsFrom, if_neg hdue] at h
    cases h
  | case3 column due handle inserts hdue c own rest n ih =>
    rw [runsFrom, if_neg hdue] at h
    rcases List.mem_cons.1 h with rfl | h
    · exact Or.inr ⟨_, List.mem_cons_self, rfl⟩
    · exact (ih h).imp_right fun ⟨cell, hcell, heq⟩ =>
        ⟨cell, List.mem_cons_of_mem _ (List.mem_of_mem_drop hcell), heq⟩
  | case4 column c own rest n ih =>
    rw [runsFrom] at h
    rcases List.mem_cons.1 h with rfl | h
    · exact Or.inr ⟨_, List.mem_cons_self, rfl⟩
    · exact (ih h).imp_right fun ⟨cell, hcell, heq⟩ =>
        ⟨cell, List.mem_cons_of_mem _ (List.mem_of_mem_drop hcell), heq⟩
  | case5 column =>
    rw [runsFrom] at h
    cases h

end runsFrom

end YamlListing.Run

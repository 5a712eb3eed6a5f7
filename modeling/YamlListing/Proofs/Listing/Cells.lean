import Mathlib.Data.List.Induction
import YamlListing.Listing.Printer
import YamlListing.Proofs.Source.Recipe
import YamlListing.Proofs.Theme.Styles

set_option autoImplicit false

/-! # The cells of a line

The cells of a line are handles, and the composer says which. They are compared with the recipes by
which they should be made, column by column (`Paints`). Each step of `Run.ofLine` changes these
recipes; in the end every cell is made by the recipe of its position (`lineCells_blends`). -/

namespace YamlListing.Run

open Composer (Knows Makes Lays)

/-- Cells, the first of them in column `n`, that are made as `f` says. -/
def Paints (given : Handle → Prop) (c : Composer) (f : Nat → Recipe) : Nat → List Handle → Prop
  | _, [] => True
  | n, cell :: rest => Makes given c (f n) cell ∧ Paints given c f (n + 1) rest

section Paints

variable {given : Handle → Prop} {c c' : Composer} {f g : Nat → Recipe} {handle upper : Handle}
  {start stop n : Nat} {cells : List Handle}

theorem Paints.congr (h : Paints given c f n cells)
    (hfg : ∀ column, n ≤ column → column < n + cells.length → f column = g column) :
    Paints given c g n cells := by
  induction cells generalizing n with
  | nil => trivial
  | cons cell rest ih =>
    rw [List.length_cons] at hfg
    refine ⟨?_, ih h.2 ?_⟩
    · rw [← hfg n (Nat.le_refl n) (by omega)]
      exact h.1
    · intro column hlow hhigh
      exact hfg column (by omega) (by omega)

theorem Paints.mono (h : Paints given c f n cells) (hsubset : c.entries ⊆ c'.entries) :
    Paints given c' f n cells := by
  induction cells generalizing n with
  | nil => trivial
  | cons cell rest ih => exact ⟨h.1.mono hsubset, ih h.2⟩

theorem Paints.knows (h : Paints given c f n cells) : ∀ cell ∈ cells, Knows given c cell := by
  induction cells generalizing n with
  | nil => exact List.forall_mem_nil _
  | cons cell rest ih => exact List.forall_mem_cons.2 ⟨h.1.knows, ih h.2⟩

theorem paints_replicate (h : given handle) (n length : Nat) :
    Paints given c (fun _ => .given handle) n (List.replicate length handle) := by
  induction length generalizing n with
  | zero => trivial
  | succ length ih => exact ⟨.given h, ih (n + 1)⟩

/-! ## Segments -/

theorem setCells_paints (hhandle : given handle) (h : Paints given c f n cells) :
    Paints given c (fun column => if inColumns start stop column then .given handle else f column) n
      (setCells handle start stop n cells) := by
  induction cells generalizing n with
  | nil => trivial
  | cons cell rest ih =>
    refine ⟨?_, ih h.2⟩
    by_cases hin : inColumns start stop n = true
    · simp only [if_pos hin]
      exact .given hhandle
    · simp only [if_neg hin]
      exact h.1

@[simp] theorem length_setCells (handle : Handle) (start stop n : Nat) (cells : List Handle) :
    (setCells handle start stop n cells).length = cells.length := by
  induction cells generalizing n with
  | nil => rfl
  | cons cell rest ih => rw [setCells, List.length_cons, List.length_cons, ih]

theorem covers_eq_false_of_isEmpty {s : LineSegment} (h : s.isEmpty = true) (column : Nat) :
    s.covers column = false := by
  rw [LineSegment.isEmpty, beq_iff_eq] at h
  rw [LineSegment.covers, Bool.and_eq_false_iff, decide_eq_false_iff_not, decide_eq_false_iff_not]
  omega

theorem baseCells_append_singleton (styles : Styles) (segments : List LineSegment)
    (s : LineSegment) (length : Nat) : baseCells styles (segments ++ [s]) length =
      if s.isEmpty then baseCells styles segments length
      else setCells (styles.handle s.category) s.start s.stop 1
        (baseCells styles segments length) := by
  rw [baseCells, List.foldl_append]
  rfl

@[simp] theorem length_baseCells (styles : Styles) (segments : List LineSegment) (length : Nat) :
    (baseCells styles segments length).length = length := by
  induction segments using List.reverseRecOn with
  | nil => exact List.length_replicate
  | append_singleton segments s ih =>
    rw [baseCells_append_singleton]
    split
    · exact ih
    · rw [length_setCells, ih]

/-- Before overlays are blended in, a cell is the handle of the category of its column. -/
theorem baseCells_paints {styles : Styles} (hgiven : ∀ category, given (styles.handle category))
    (segments : List LineSegment) (length : Nat) :
    Paints given c
      (fun column => .given (styles.handle (LineSegment.categoryAt segments column))) 1
      (baseCells styles segments length) := by
  induction segments using List.reverseRecOn with
  | nil => exact paints_replicate (hgiven .text) 1 length
  | append_singleton segments s ih =>
    rw [baseCells_append_singleton]
    split
    · next hempty =>
      refine ih.congr ?_
      intro column _ _
      rw [LineSegment.categoryAt_append_singleton, covers_eq_false_of_isEmpty hempty,
        if_neg Bool.false_ne_true]
    · refine (setCells_paints (hgiven s.category) ih).congr ?_
      intro column _ _
      have hcovers : s.covers column = inColumns s.start s.stop column := rfl
      rw [LineSegment.categoryAt_append_singleton, hcovers]
      split <;> rfl

/-! ## Overlays -/

/-- What blending makes of cells: as many cells, that are made as `f` says. -/
structure Blends (given : Handle → Prop) (c : Composer) (f : Nat → Recipe) (n : Nat)
    (cells : List Handle) (result : List Handle × Composer) : Prop where
  sound : result.2.IsSound given
  subset : c.entries ⊆ result.2.entries
  paints : Paints given result.2 f n result.1
  length : result.1.length = cells.length

/-- A cell in the columns of an overlay is blended and any other one stays. -/
theorem blendCell_lays (theme start stop n : Nat) {cell : Handle} {r : Recipe}
    (hs : c.IsSound given) (hupper : given upper) (hcell : Makes given c r cell) :
    Lays given c (if inColumns start stop n then r.layer theme (.given upper) .blend else r)
      (if inColumns start stop n then c.layer theme cell upper .blend else (cell, c)) := by
  split
  · exact Composer.layer_lays hs theme .blend hcell (.given hupper)
  · exact .unchanged hs hcell

theorem blendCells_blends (theme start stop : Nat) (hs : c.IsSound given) (hupper : given upper)
    (h : Paints given c f n cells) :
    Blends given c
      (fun column => if inColumns start stop column then
          (f column).layer theme (.given upper) .blend
        else f column) n cells
      (blendCells theme upper start stop n c cells) := by
  -- The composer changes from cell to cell, and what it kept before it still keeps.
  induction cells generalizing n c with
  | nil => exact ⟨hs, List.Subset.refl _, trivial, rfl⟩
  | cons cell rest ih =>
    have hfirst := blendCell_lays theme start stop n hs hupper h.1
    have hlater := ih hfirst.sound (h.2.mono hfirst.subset)
    simp only [blendCells]
    refine ⟨hlater.sound, List.Subset.trans hfirst.subset hlater.subset,
      ⟨hfirst.makes.mono hlater.subset, hlater.paints⟩, ?_⟩
    rw [List.length_cons, List.length_cons, hlater.length]

end Paints

/-- The part of an overlay on a line. -/
def overlayPart? (n : Nat) (o : Overlay) : Option Overlay :=
  (o.span.clipToTextLine n).map (Overlay.mk o.category)

/-- The columns of a line that an overlay is blended over. -/
def inOverlay (span : Span) (n length column : Nat) : Bool :=
  match span.clipToTextLine n with
  | some clip => inColumns (overlayColumns clip n length).1 (overlayColumns clip n length).2 column
  | none => false

/-- On a line that it touches, an overlay begins at its start or before the first column. -/
theorem overlayColumns_start_le {span : Span} {n column : Nat} (length : Nat)
    (hfirst : span.firstLine ≤ n) (hcolumn : 1 ≤ column) :
    (overlayColumns ⟨max span.start (.lineStart n), span.stop⟩ n length).1 ≤ column ↔
      span.start ≤ ⟨n, column⟩ := by
  rw [Span.firstLine] at hfirst
  rw [Position.le_def span.start ⟨n, column⟩]
  by_cases h : span.start ≤ .lineStart n
  · have hone : (overlayColumns ⟨.lineStart n, span.stop⟩ n length).1 = 1 :=
      if_neg (Nat.lt_irrefl n)
    rw [Position.max_of_le h, hone]
    rw [Position.le_def] at h
    simp only [Position.lineStart] at h ⊢
    omega
  · rw [Position.max_def, if_neg h]
    rw [Position.le_def] at h
    simp only [Position.lineStart] at h
    have hline : ¬ span.start.line < n := by omega
    have hstart : (overlayColumns ⟨span.start, span.stop⟩ n length).1 = span.start.column :=
      if_neg hline
    rw [hstart]
    simp only
    omega

/-- On a line that it touches, an overlay stops at its stop or after the last column. -/
theorem lt_overlayColumns_stop {span : Span} {n length column : Nat} (hlast : n ≤ span.lastLine)
    (hlength : column ≤ length) :
    column < (overlayColumns ⟨span.start, min span.stop (.lineStart (n + 1))⟩ n length).2 ↔
      (⟨n, column⟩ : Position) < span.stop := by
  have hstop := span.lastLine_le
  rw [Position.lt_def]
  by_cases h : span.stop ≤ .lineStart (n + 1)
  · rw [Position.min_of_le h]
    simp only [overlayColumns]
    split <;> omega
  · have hend : (overlayColumns ⟨span.start, .lineStart (n + 1)⟩ n length).2 = length + 1 :=
      if_pos (Nat.lt_succ_self n)
    rw [Position.min_def, if_neg h, hend]
    rw [Position.le_def] at h
    simp only [Position.lineStart] at h ⊢
    omega

/-- An overlay is blended over the columns of the positions that its span contains. -/
theorem inOverlay_eq_contains (span : Span) (n length : Nat) {column : Nat} (hcolumn : 1 ≤ column)
    (hlength : column ≤ length) : inOverlay span n length column = span.contains ⟨n, column⟩ := by
  rw [Bool.eq_iff_iff, Span.contains_iff]
  by_cases houtside : n < span.firstLine ∨ span.lastLine < n
  · rw [inOverlay, Span.clipToTextLine_eq_none houtside, Position.le_def, Position.lt_def]
    rw [Span.firstLine, Span.lastLine] at houtside
    split at houtside <;> simp only [Bool.false_eq_true, false_iff] <;> omega
  · rw [inOverlay, Span.clipToTextLine, Span.clipBefore, if_neg houtside]
    simp only [inColumns, Bool.and_eq_true, decide_eq_true_eq]
    exact and_congr (overlayColumns_start_le length (by omega) hcolumn)
      (lt_overlayColumns_stop (by omega) hlength)

section overlays

variable {given : Handle → Prop} {c : Composer} {f : Nat → Recipe} {cells : List Handle}
  {styles : Styles}

/-- The part of an overlay on a line is blended over the columns that it covers there. -/
theorem overlayCells_cons (n : Nat) (o : Overlay) (rest : List Overlay) :
    overlayCells styles n c cells (o :: rest) =
      let blended := blendCells styles.id (styles.handle o.category)
        (overlayColumns o.span n cells.length).1 (overlayColumns o.span n cells.length).2 1 c cells
      overlayCells styles n blended.2 blended.1 rest := rfl

/-- After the parts of overlays on a line are blended in, a cell has the handles of those that
contain its position laid over the handle it was, one after the other. -/
theorem overlayCells_blends (hgiven : ∀ category, given (styles.handle category))
    (hs : c.IsSound given) (n : Nat) (overlays : List Overlay) (h : Paints given c f 1 cells) :
    Blends given c
      (fun column =>
        Source.layCategories styles (f column) (Source.categoriesOver overlays ⟨n, column⟩)) 1 cells
      (overlayCells styles n c cells (overlays.filterMap (overlayPart? n))) := by
  -- Each overlay starts from what the one before has left: its composer, its cells, their recipes.
  induction overlays generalizing c f cells with
  | nil => exact ⟨hs, List.Subset.refl _, h, rfl⟩
  | cons o rest ih =>
    have hin : ∀ column, 1 ≤ column → column < 1 + cells.length →
        inOverlay o.span n cells.length column = o.span.contains ⟨n, column⟩ := by
      intro column hlow hhigh
      exact inOverlay_eq_contains o.span n cells.length hlow (by omega)
    cases hclip : o.span.clipToTextLine n with
    | none =>
      -- An overlay without a part on the line contains none of its positions.
      simp only [inOverlay, hclip] at hin
      have hnone : overlayPart? n o = none := by rw [overlayPart?, hclip, Option.map_none]
      have hrest := ih hs h
      rw [List.filterMap_cons_none hnone]
      refine ⟨hrest.sound, hrest.subset, hrest.paints.congr ?_, hrest.length⟩
      intro column hlow hhigh
      rw [hrest.length] at hhigh
      rw [Source.layCategories_cons_overlay, ← hin column hlow hhigh, if_neg Bool.false_ne_true]
    | some clip =>
      simp only [inOverlay, hclip] at hin
      have hsome : overlayPart? n o = some ⟨o.category, clip⟩ := by
        rw [overlayPart?, hclip, Option.map_some]
      rw [List.filterMap_cons_some hsome, overlayCells_cons]
      have hfirst := blendCells_blends styles.id (overlayColumns clip n cells.length).1
        (overlayColumns clip n cells.length).2 hs (hgiven o.category) h
      have hrest := ih hfirst.sound hfirst.paints
      refine ⟨hrest.sound, List.Subset.trans hfirst.subset hrest.subset, hrest.paints.congr ?_,
        hrest.length.trans hfirst.length⟩
      intro column hlow hhigh
      rw [hrest.length, hfirst.length] at hhigh
      rw [Source.layCategories_cons_overlay, hin column hlow hhigh]

/-! ## A line -/

/-- The cells of a line with its segments and overlays. -/
def lineCells (styles : Styles) (source : Source) (n : Nat) (c : Composer) :
    List Handle × Composer :=
  overlayCells styles n c
    (baseCells styles (source.segmentsAt n) ((source.line? n).getD []).length) (source.overlaysOn n)

/-- Each cell of a line is made by the recipe of its position. -/
theorem lineCells_blends (source : Source) (hs : c.IsSound styles.Gives) (n : Nat) :
    Blends styles.Gives c (fun column => source.recipeAt styles ⟨n, column⟩) 1
      (List.replicate ((source.line? n).getD []).length (styles.handle .text))
      (lineCells styles source n c) := by
  have hgiven := styles.gives_handle
  have hblends := overlayCells_blends hgiven hs n source.overlays
    (baseCells_paints hgiven (source.segmentsAt n) ((source.line? n).getD []).length)
  refine ⟨hblends.sound, hblends.subset, hblends.paints, ?_⟩
  rw [List.length_replicate]
  exact hblends.length.trans (length_baseCells _ _ _)

end overlays

end YamlListing.Run

import YamlListing.Proofs.Listing.Cells
import YamlListing.Proofs.Listing.Runs
import YamlListing.Proofs.Terminal.Rows
import YamlListing.Proofs.Terminal.Strip

set_option autoImplicit false

/-! # What a line of a listing shows

Where controls are made visible and no style has a transform, the runs of a line are written as a
writer writes any runs (`emit_eq_line`). They hold the characters of the line, each with the look of
its position (`flatMap_cells_ofLine`). -/

namespace YamlListing

open Terminal (Cell)

namespace Source

/-- What a terminal shows of a line. -/
def shownLine (s : Source) (styles : Styles) (depth : ColorDepth) (n : Nat) : List Cell :=
  ((s.line? n).getD []).mapIdx fun i c =>
    ⟨Terminal.escapeChar c, (s.styleAt styles ⟨n, i + 1⟩).look depth⟩

section transform

variable {styles : Styles}

theorem blendOverlays_transform (h : styles.HasNoTransform) (p : Position)
    (overlays : List Overlay) {style : Style} (hstyle : style.transform = none) :
    (blendOverlays styles p overlays style).transform = none := by
  induction overlays generalizing style with
  | nil => exact hstyle
  | cons o rest ih =>
    rw [blendOverlays_cons]
    refine ih ?_
    split
    · have hblend : (style.blendStyle (styles.style o.category)).transform =
          Style.chainTransforms style.transform (styles.style o.category).transform := rfl
      rw [hblend, hstyle, h o.category]
      rfl
    · exact hstyle

/-- Where no style of a theme has a transform, none is put together from them. -/
theorem styleAt_transform (s : Source) (h : styles.HasNoTransform) (p : Position) :
    (s.styleAt styles p).transform = none :=
  blendOverlays_transform h p s.overlays (h (s.categoryAt p))

end transform

end Source

theorem Style.Alike.look_eq {a b : Style} (h : a.Alike b) (depth : ColorDepth) :
    a.look depth = b.look depth := by
  rw [Style.look, Style.look, h.foreground, h.background, h.attributes]

theorem Style.transformed_of_transform_eq_none {s : Style} (h : s.transform = none) (t : Text) :
    s.transformed t = t := by
  rw [Style.transformed, h]

namespace Run

open Composer (Makes)

/-! ## Writing -/

/-- A run as it is written if its controls are made visible. -/
def styled (r : Run) : Style × Text := (r.handle.style, Terminal.escape r.text)

section emit

variable {o : ListingOptions} {runs : List Run}

theorem emit_eq_line (hescape : o.controlEscape = true)
    (h : ∀ r ∈ runs, r.handle.style.transform = none) (w : Terminal.Writer) (column : Nat) :
    emit o w column runs = w.line (runs.map styled) := by
  -- Pictures of controls leave the column alone, so it plays no part in what is written.
  induction runs generalizing w column with
  | nil => rfl
  | cons r runs ih =>
    have hvisible : visible o column r.text = (Terminal.escape r.text, column) := if_pos hescape
    have htransform := Style.transformed_of_transform_eq_none (h r List.mem_cons_self)
    simp only [emit, hvisible, htransform]
    rw [ih (fun r hr => h r (List.mem_cons_of_mem _ hr)), List.map_cons, styled,
      Terminal.Writer.line_cons]

/-- A character with a handle as a terminal shows it. -/
def shown (depth : ColorDepth) (cell : Char × Handle) : Cell :=
  ⟨Terminal.escapeChar cell.1, cell.2.style.look depth⟩

/-- What runs show is what their cells show. -/
theorem flatMap_cells_styled (depth : ColorDepth) (runs : List Run) :
    (runs.map styled).flatMap (fun r => r.1.cells depth r.2) =
      (runs.flatMap Run.cells).map (shown depth) := by
  rw [List.flatMap_map, List.map_flatMap]
  refine List.flatMap_congr ?_
  intro r _
  rw [styled, Style.cells, Terminal.escape, Run.cells, List.map_map, List.map_map]
  rfl

/-- The texts of runs are the characters of their cells, made visible. -/
theorem flatMap_snd_styled (runs : List Run) : (runs.map styled).flatMap Prod.snd =
    Terminal.escape ((runs.flatMap Run.cells).map Prod.fst) := by
  rw [List.flatMap_map, Terminal.escape, List.map_flatMap, List.map_flatMap]
  refine List.flatMap_congr ?_
  intro r _
  rw [styled, Terminal.escape, Run.cells, List.map_map, List.map_map]
  rfl

end emit

/-! ## The runs of a line -/

section ofLine

variable {styles : Styles} {c : Composer} {f : Nat → Recipe} {n : Nat} {cells : List Handle}

theorem Paints.exists_makes {given : Handle → Prop} (h : Paints given c f n cells) {cell : Handle}
    (hcell : cell ∈ cells) : ∃ column, Makes given c (f column) cell := by
  induction cells generalizing n with
  | nil => cases hcell
  | cons first rest ih =>
    rcases List.mem_cons.1 hcell with rfl | hcell
    · exact ⟨n, h.1⟩
    · exact ih h.2 hcell

/-- Characters with cells are shown in the looks of what the cells are made by. -/
theorem Paints.map_shown_zip {given : Handle → Prop} (hs : c.IsFaithful given)
    (h : Paints given c f n cells) (depth : ColorDepth) {text : Text}
    (hlength : cells.length = text.length) :
    (text.zip cells).map (shown depth) =
      text.mapIdx fun i c => ⟨Terminal.escapeChar c, (f (n + i)).style.look depth⟩ := by
  induction text generalizing n cells with
  | nil => rfl
  | cons c text ih =>
    cases cells with
    | nil => cases hlength
    | cons cell cells =>
      rw [List.zip_cons_cons, List.map_cons, ih h.2 (Nat.succ.inj hlength), List.mapIdx_cons,
        shown, h.1.style_eq hs]
      simp only [Nat.add_zero, Nat.add_assoc, Nat.add_comm 1]

theorem insertions_eq_nil (h : styles.HasNoTransform) (segments : List LineSegment) :
    insertions styles segments = [] := by
  rw [insertions, List.filterMap_eq_nil_iff]
  intro s _
  have hnone : (styles.handle s.category).style.transform = none := h s.category
  simp only [hnone, Option.isSome_none, Bool.and_false, Bool.false_eq_true, if_false]

theorem ofLine_eq (styles : Styles) (source : Source) (n : Nat) (c : Composer) :
    ofLine styles source n c =
      (runsFrom 1 (insertions styles (source.segmentsAt n))
        (((source.line? n).getD []).zip (lineCells styles source n c).1),
        (lineCells styles source n c).2) := rfl

variable (source : Source) (hs : c.IsSound styles.Gives) (n : Nat)
include hs

theorem length_lineCells :
    (lineCells styles source n c).1.length = ((source.line? n).getD []).length := by
  rw [(lineCells_blends source hs n).length, List.length_replicate]

/-- The runs of a line hold its characters with their cells. -/
theorem flatMap_cells_ofLine : (ofLine styles source n c).1.flatMap Run.cells =
    ((source.line? n).getD []).zip (lineCells styles source n c).1 := by
  have hblends := lineCells_blends source hs n
  refine flatMap_cells_runsFrom ?_
  intro a ha b hb
  exact hblends.sound.unique _ _ (hblends.paints.knows _ (List.of_mem_zip ha).2)
    (hblends.paints.knows _ (List.of_mem_zip hb).2)

/-- The runs of a line show each character in the look of its position. -/
theorem shown_ofLine (depth : ColorDepth) :
    ((ofLine styles source n c).1.map styled).flatMap (fun r => r.1.cells depth r.2) =
      source.shownLine styles depth n := by
  have hblends := lineCells_blends source hs n
  rw [flatMap_cells_styled, flatMap_cells_ofLine source hs n,
    hblends.paints.map_shown_zip hblends.sound.toIsFaithful depth (length_lineCells source hs n),
    Source.shownLine]
  simp only [Nat.add_comm 1, (source.recipeAt_alike styles _).look_eq depth]

theorem text_ofLine : ((ofLine styles source n c).1.map styled).flatMap Prod.snd =
    Terminal.escape ((source.line? n).getD []) := by
  rw [flatMap_snd_styled, flatMap_cells_ofLine source hs n,
    List.map_fst_zip (Nat.le_of_eq (length_lineCells source hs n).symm)]

theorem transform_of_mem_ofLine (h : styles.HasNoTransform) {r : Run}
    (hr : r ∈ (ofLine styles source n c).1) : r.handle.style.transform = none := by
  rw [ofLine_eq, insertions_eq_nil h] at hr
  rcases handle_of_mem_runsFrom hr with ⟨insert, hinsert, -⟩ | ⟨cell, hcell, hhandle⟩
  · cases hinsert
  · -- The composer may have answered with the handle, but it looks like the style of its column.
    have hblends := lineCells_blends source hs n
    obtain ⟨column, hmakes⟩ := hblends.paints.exists_makes (List.of_mem_zip hcell).2
    rw [← hhandle, hmakes.style_eq hblends.sound.toIsFaithful,
      (source.recipeAt_alike styles ⟨n, column⟩).transform]
    exact source.styleAt_transform h _

end ofLine

end Run

end YamlListing

import YamlListing.Proofs.Source.Column
import YamlListing.Proofs.Theme.Recipe

set_option autoImplicit false

/-! # How the handle of a position is made

The handle of a position is that of its category, with those of the overlays that contain it laid
over. Only the categories of these overlays matter, in the order in which they were laid. -/

namespace YamlListing.Source

/-- The categories of the overlays that contain a position, in the order in which they were laid. -/
def categoriesOver (overlays : List Overlay) (p : Position) : List Category :=
  (overlays.filter (·.span.contains p)).map (·.category)

/-- A recipe with the handles of categories laid over, one after the other. -/
def layCategories (styles : Styles) (r : Recipe) (categories : List Category) : Recipe :=
  categories.foldl (fun r c => r.layer styles.id (.given (styles.handle c)) .blend) r

/-- How the handle of a position is made. -/
def recipeAt (s : Source) (styles : Styles) (p : Position) : Recipe :=
  layCategories styles (.given (styles.handle (s.categoryAt p))) (categoriesOver s.overlays p)

variable {styles : Styles} {p : Position}

theorem categoriesOver_append (overlays overlays' : List Overlay) (p : Position) :
    categoriesOver (overlays ++ overlays') p =
      categoriesOver overlays p ++ categoriesOver overlays' p := by
  rw [categoriesOver, List.filter_append, List.map_append]
  rfl

theorem categoriesOver_cons (o : Overlay) (overlays : List Overlay) (p : Position) :
    categoriesOver (o :: overlays) p =
      if o.span.contains p then o.category :: categoriesOver overlays p
      else categoriesOver overlays p := by
  rw [categoriesOver, List.filter_cons]
  split <;> rfl

theorem layCategories_cons_overlay (o : Overlay) (rest : List Overlay) (r : Recipe) :
    layCategories styles r (categoriesOver (o :: rest) p) =
      layCategories styles
        (if o.span.contains p then r.layer styles.id (.given (styles.handle o.category)) .blend
          else r) (categoriesOver rest p) := by
  rw [categoriesOver_cons]
  split <;> rfl

theorem layCategories_alike (overlays : List Overlay) {r : Recipe} {style : Style}
    (h : r.style.Alike style) :
    (layCategories styles r (categoriesOver overlays p)).style.Alike
      (blendOverlays styles p overlays style) := by
  induction overlays generalizing r style with
  | nil => exact h
  | cons o rest ih =>
    rw [layCategories_cons_overlay, blendOverlays_cons]
    refine ih ?_
    split
    · have hlayer := Recipe.layer_alike styles.id r (.given (styles.handle o.category)) .blend
      rw [Style.compose_congr .blend h (.refl _)] at hlayer
      exact hlayer
    · exact h

/-- The positions of a line with one category, and the same ones laid over it, are made alike. -/
theorem recipeAt_congr {s t : Source} {p q : Position} (hsegments : s.segmentsAt p.line =
    t.segmentsAt q.line) (hcolumn : p.column = q.column)
    (hover : categoriesOver s.overlays p = categoriesOver t.overlays q) :
    s.recipeAt styles p = t.recipeAt styles q := by
  rw [recipeAt, recipeAt, categoryAt, categoryAt, hsegments, hcolumn, hover]

/-- What is made for a position looks like its style. -/
theorem recipeAt_alike (s : Source) (styles : Styles) (p : Position) :
    (s.recipeAt styles p).style.Alike (s.styleAt styles p) :=
  layCategories_alike s.overlays (.refl _)

end YamlListing.Source

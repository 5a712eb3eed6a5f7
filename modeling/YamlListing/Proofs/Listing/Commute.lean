import YamlListing.Proofs.Listing.Memory

set_option autoImplicit false

/-! # Overlays that lie apart

The order in which overlays are laid matters where they meet. No position lies in two spans that do
not reach into each other, so two neighbours of which that holds may change places: over every
position lie the same categories in the same order (`categoriesOver_swap`), and every listing of the
source stays as it is (`listings_swap`). -/

namespace YamlListing

theorem Span.contains_eq_false_of_apart {s t : Span} {p : Position} (h : s.intersects t = false)
    (hs : s.contains p = true) : t.contains p = false := by
  rw [Bool.eq_false_iff]
  intro ht
  rw [contains_iff] at hs ht
  have hst : s.start < t.stop := Position.lt_of_le_of_lt hs.1 ht.2
  have hts : t.start < s.stop := Position.lt_of_le_of_lt ht.1 hs.2
  rw [intersects, decide_eq_true hst, decide_eq_true hts] at h
  cases h

namespace Source

/-- Neighbours that lie apart may be laid in either order. -/
theorem categoriesOver_swap {a b : Overlay} (hapart : a.span.intersects b.span = false)
    (before after : List Overlay) (p : Position) :
    categoriesOver (before ++ a :: b :: after) p =
      categoriesOver (before ++ b :: a :: after) p := by
  rw [categoriesOver_append, categoriesOver_append]
  simp only [categoriesOver_cons]
  cases ha : a.span.contains p with
  | true => simp only [Span.contains_eq_false_of_apart hapart ha, Bool.false_eq_true, if_false]
  | false => simp only [Bool.false_eq_true, if_false]

end Source

/-- The gutters that look at nothing of a source but the number of its lines. -/
def Gutter.IsNumbering (g : Gutter) : Prop :=
  ∀ (s t : Source) (styles : Styles) (depth : ColorDepth) (n : Nat), s.lineCount = t.lineCount →
    g ⟨s, styles, depth⟩ n = g ⟨t, styles, depth⟩ n

theorem Gutter.lineNumbers_isNumbering : lineNumbers.IsNumbering := by
  intro s t styles depth n hcount
  simp only [lineNumbers, hcount]
  rfl

namespace Printer

variable {o : ListingOptions} {p p' : Printer} {source : Source} {before after : List Overlay}
  {a b : Overlay}

theorem lineText_swap (hgutter : ∀ gutter, o.gutter = some gutter → gutter.IsNumbering)
    (hoverlays : source.overlays = before ++ a :: b :: after)
    (hapart : a.span.intersects b.span = false) (n : Nat) :
    lineText o source n = lineText o { source with overlays := before ++ b :: a :: after } n := by
  refine line_congr (new_isReady o) (new_isReady o) ⟨rfl, rfl, ?_⟩ ?_
  · intro column _ _
    rw [hoverlays]
    exact Source.categoriesOver_swap hapart before after _
  · intro gutter hsome
    exact hgutter gutter hsome _ _ _ _ _ rfl

/-- Two neighbouring overlays that do not reach into each other may change places: whatever lies
before and after them and whatever composers remember, all that is printed of the source stays the
same. -/
theorem listings_swap (h : p.IsReady o) (h' : p'.IsReady o)
    (hgutter : ∀ gutter, o.gutter = some gutter → gutter.IsNumbering)
    (hoverlays : source.overlays = before ++ a :: b :: after)
    (hapart : a.span.intersects b.span = false) :
    let swapped := { source with overlays := before ++ b :: a :: after }
    (p.print source).1 = (p'.print swapped).1 ∧
      (∀ first last, (p.printSlice source first last).1 = (p'.printSlice swapped first last).1) ∧
      ∀ spans, (p.printSpans source spans).1 = (p'.printSpans swapped spans).1 := by
  intro swapped
  have htext : lineText o source = lineText o swapped :=
    funext (lineText_swap hgutter hoverlays hapart)
  have hlines : ∀ numbers, (p.lines source numbers).1 = (p'.lines swapped numbers).1 := by
    intro numbers
    rw [lines_eq h, lines_eq h', htext]
  refine ⟨?_, fun first last => hlines _, fun spans => ?_⟩
  · have hall : (p.lines source (allLines source)).1 = (p'.lines swapped (allLines swapped)).1 :=
      hlines _
    simp only [print, hall]
    rfl
  · have htouched : linesTouched swapped spans = linesTouched source spans := rfl
    rw [printSpans, printSpans, groups_eq h, groups_eq h', htext, htouched]

/-! ### Three lines

Below the overlays that change places lies one that both of them meet. The first of the two stops at
the start of the line where the other one begins. -/

def threeLinesApart : Source :=
  { threeLines with
    overlays := [⟨.title, ⟨⟨1, 1⟩, ⟨3, 2⟩⟩⟩, ⟨.highlight, ⟨⟨1, 2⟩, ⟨3, 1⟩⟩⟩,
      ⟨.comment, ⟨⟨3, 1⟩, ⟨3, 2⟩⟩⟩] }

def threeLinesSwapped : Source :=
  { threeLines with
    overlays := [⟨.title, ⟨⟨1, 1⟩, ⟨3, 2⟩⟩⟩, ⟨.comment, ⟨⟨3, 1⟩, ⟨3, 2⟩⟩⟩,
      ⟨.highlight, ⟨⟨1, 2⟩, ⟨3, 1⟩⟩⟩] }

/-- A printer that has printed other overlays prints the same as one whose composer is cleared. -/
theorem listings_swap_threeLines :
    let o := { threeLinesOptions with gutter := some .lineNumbers }
    let used := ((new o).print threeLines).2
    let cleared := { used with composer := used.composer.clear }
    (used.print threeLinesApart).1 = (cleared.print threeLinesSwapped).1 ∧
      (used.printSlice threeLinesApart 2 9).1 = (cleared.printSlice threeLinesSwapped 2 9).1 ∧
      (used.printSpans threeLinesApart [⟨⟨2, 1⟩, ⟨3, 1⟩⟩]).1 =
        (cleared.printSpans threeLinesSwapped [⟨⟨2, 1⟩, ⟨3, 1⟩⟩]).1 := by
  intro o used cleared
  have hready : used.IsReady o := (IsUsed.print .new threeLines).isReady
  have hgutter : ∀ gutter, o.gutter = some gutter → gutter.IsNumbering := by
    intro gutter hsome
    obtain rfl : Gutter.lineNumbers = gutter := Option.some.inj hsome
    exact Gutter.lineNumbers_isNumbering
  have hoverlays : threeLinesApart.overlays = [⟨.title, ⟨⟨1, 1⟩, ⟨3, 2⟩⟩⟩] ++
      ⟨.highlight, ⟨⟨1, 2⟩, ⟨3, 1⟩⟩⟩ :: ⟨.comment, ⟨⟨3, 1⟩, ⟨3, 2⟩⟩⟩ :: [] := rfl
  obtain ⟨hprint, hslice, hspans⟩ :=
    listings_swap hready hready.clear hgutter hoverlays (by decide)
  exact ⟨hprint, hslice 2 9, hspans [⟨⟨2, 1⟩, ⟨3, 1⟩⟩]⟩

end Printer

end YamlListing

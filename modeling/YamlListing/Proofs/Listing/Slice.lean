import YamlListing.Proofs.Listing.Memory
import YamlListing.Proofs.Span.Bounds

set_option autoImplicit false

/-! # Slices

A part of a source can be printed in two ways: its lines can be chosen from the whole source, or
they can be cut out and printed as a source of their own. For the second way every overlay is
clipped to the lines and moved with them. A line of a slice is the same as the one that it was
(`slice_sameLine`), so both ways print the same (`printSlice_eq_print_slice`). -/

namespace YamlListing

namespace Source

/-! ## Cutting out lines -/

section atLine

variable {α : Type}

/-- The entry for a line of some that are cut out is the one that the line had. -/
theorem atLine_take_drop (entries : List α) (k length : Nat) {n : Nat} (hn : 1 ≤ n)
    (hlength : n ≤ length) : atLine ((entries.drop k).take length) n = atLine entries (n + k) := by
  rw [atLine, atLine, if_neg (by omega), if_neg (by omega), List.getElem?_take_of_lt (by omega),
    List.getElem?_drop]
  congr 1
  omega

end atLine

/-- Overlays that are cut and moved lie over the position that a position becomes. -/
theorem categoriesOver_filterMap {f : Overlay → Option Overlay} {p q : Position}
    (hnone : ∀ o, f o = none → o.span.contains p = false)
    (hsome : ∀ o o', f o = some o' →
      o'.category = o.category ∧ o'.span.contains q = o.span.contains p)
    (overlays : List Overlay) :
    categoriesOver (overlays.filterMap f) q = categoriesOver overlays p := by
  induction overlays with
  | nil => rfl
  | cons o overlays ih =>
    rw [categoriesOver_cons]
    cases hf : f o with
    | none =>
      rw [List.filterMap_cons_none hf, hnone o hf, if_neg Bool.false_ne_true]
      exact ih
    | some o' =>
      obtain ⟨hcategory, hcontains⟩ := hsome o o' hf
      rw [List.filterMap_cons_some hf, categoriesOver_cons, hcategory, hcontains, ih]

/-- A slice with lines in it. -/
theorem slice_eq (s : Source) {first last : Nat} (h : max 1 first ≤ min last s.lineCount) :
    s.slice first last =
      { name := s.name
        lines := (s.lines.drop (max 1 first - 1)).take
          (min last s.lineCount + 1 - max 1 first)
        endsWithNewline := false
        segments := (s.segments.drop (max 1 first - 1)).take
          (min last s.lineCount + 1 - max 1 first)
        classified := s.classified
        overlays := s.overlays.filterMap fun o =>
          (o.span.clipTo (.textLines (max 1 first) (min last s.lineCount))).map fun span =>
            ⟨o.category, span.shiftLines (-((max 1 first - 1 : Nat) : Int))⟩ } := by
  rw [slice, if_neg (by omega)]

/-- A line of a slice is the same as the line that it was. -/
theorem slice_sameLine (s : Source) (hcount : s.lineCount < Span.maxLine) {first last n : Nat}
    (hn : 1 ≤ n) (hlength : n ≤ min last s.lineCount + 1 - max 1 first) :
    s.SameLine (n + (max 1 first - 1)) (s.slice first last) n := by
  have hle : max 1 first ≤ min last s.lineCount := by omega
  rw [slice_eq s hle]
  refine ⟨?_, ?_, ?_⟩
  · rw [line?, line?, atLine_take_drop _ _ _ hn hlength]
  · rw [segmentsAt, segmentsAt, atLine_take_drop _ _ _ hn hlength]
  · intro column hcolumn _
    have hinside : (Span.textLines (max 1 first) (min last s.lineCount)).contains
        ⟨n + (max 1 first - 1), column⟩ = true := by
      rw [Span.contains_iff, Span.textLines, Position.le_def, Position.lt_def]
      simp only [Position.lineStart]
      omega
    refine (categoriesOver_filterMap ?_ ?_ s.overlays).symm
    · intro o hnone
      exact Span.contains_of_clipTo_eq_none (Option.map_eq_none_iff.1 hnone) hinside
    · intro o o' hsome
      obtain ⟨clip, hclip, rfl⟩ := Option.map_eq_some_iff.1 hsome
      obtain ⟨hstart, hends, hstop⟩ := Span.clipTo_le hclip
      rw [Span.textLines, Position.le_def] at hstart hstop
      rw [Position.le_def] at hends
      simp only [Position.lineStart] at hstart hstop
      refine ⟨rfl, ?_⟩
      -- The part of the overlay lies within the lines, so no line number is bent when it moves.
      rw [Span.shiftLines_contains (by omega) (by omega) (by omega) (by omega),
        Span.contains_of_clipTo hclip hinside]

end Source

namespace Printer

variable {o : ListingOptions} {p p' : Printer}

theorem linesWithin_eq_map (source : Source) (first last : Nat) :
    linesWithin source first last =
      (Source.numbers 1 (min last source.lineCount + 1 - max 1 first)).map
        (· + (max 1 first - 1)) := by
  rw [linesWithin, Source.numbers, Source.numbers]
  simp only [Nat.add_comm _ (max 1 first - 1), List.map_add_range']
  congr 1
  omega

/-- Printing the lines from one to another is printing the slice that is cut out of them, whatever
segments and overlays are on the source and whatever composers remember. The number of lines
is less than the greatest line number, since overlays may stop at the line after the last one. -/
theorem printSlice_eq_print_slice (h : p.IsReady o) (h' : p'.IsReady o) (hgutter : o.gutter = none)
    (source : Source) (hcount : source.lineCount < Span.maxLine) (first last : Nat) :
    (p.printSlice source first last).1 = (p'.print (source.slice first last)).1 := by
  have hending : (source.slice first last).endsWithNewline = false := by
    rw [Source.slice]
    split <;> rfl
  have hcountSlice : (source.slice first last).lineCount =
      min last source.lineCount + 1 - max 1 first := by
    rw [Source.slice]
    split
    · next hempty =>
      rw [Source.empty, Source.ofLines, Source.lineCount, List.length_nil]
      omega
    · simp only [Source.lineCount, List.length_take, List.length_drop]
      omega
  have hlines : (linesWithin source first last).map (lineText o source) =
      (allLines (source.slice first last)).map (lineText o (source.slice first last)) := by
    rw [linesWithin_eq_map, allLines, hcountSlice, List.map_map]
    refine List.map_congr_left ?_
    intro n hn
    rw [Source.numbers, List.mem_range'_1] at hn
    refine line_congr (new_isReady o) (new_isReady o)
      (source.slice_sameLine hcount hn.1 (by omega)) ?_
    intro gutter hsome
    rw [hgutter] at hsome
    cases hsome
  rw [printSlice, print, lines_eq h, hlines, ← lines_eq h']
  simp only [hending, Bool.false_and, Bool.false_eq_true, if_false]

/-- The first overlay begins on the line before the slice and the last line of it does not exist. -/
theorem printSlice_threeLines :
    let o := { threeLinesOptions with controlEscape := false }
    let used := ((new o).print threeLines).2
    (used.printSlice threeLines 2 9).1 = ((new o).print (threeLines.slice 2 9)).1 :=
  printSlice_eq_print_slice (IsUsed.print .new threeLines).isReady (new_isReady _) rfl threeLines
    (by decide) 2 9

end Printer

end YamlListing

import YamlListing.Proofs.Listing.Highlight
import YamlListing.Proofs.Listing.Memory
import YamlListing.Proofs.Listing.Tabs
import YamlListing.Proofs.Text.Split

set_option autoImplicit false

/-! # What styling does to the text of a listing

A listing that does not show controls as pictures replaces its tabs by spaces, run by run, and the
segments and overlays of a source decide where a run stops. Main statement
(`Printer.stylingKeepsText_iff`): for lines without controls but tabs and a distance of tab stops,
the text of a listing is the same whatever is laid over the lines exactly if the widths before every
tab add up (`Run.AddsUp`). They do unless a character changes the width of another one. A heart with
a variation selector takes two columns; if a run stops between the two, the tab after them is
replaced as if they took one (`Printer.not_stylingKeepsText`). -/

namespace YamlListing

open Terminal (IsStyled isControl strip)

/-! ## The text that runs show -/

namespace Run

variable {o : ListingOptions} {runs : List Run} {w k : Nat} {t : Text} {c : Char}

theorem mem_expandTabs (h : c ∈ (expandTabs w k t).1) : c ∈ t ∨ c = ' ' := by
  induction t using tabInduction generalizing k with
  | plain a ha =>
    rw [expandTabs_of_notMem ha] at h
    exact Or.inl h
  | tab a b ha ih =>
    rw [expandTabs_append_tab ha] at h
    simp only [List.mem_append, List.mem_cons] at h ⊢
    rcases h with h | h | h
    · exact Or.inl (Or.inl h)
    · exact Or.inr (List.eq_of_mem_replicate h)
    · exact (ih h).imp_left fun hb => Or.inr (Or.inr hb)

theorem mem_expandParts {parts : List Text} (h : c ∈ expandParts w k parts) :
    c ∈ parts.flatten ∨ c = ' ' := by
  induction parts generalizing k with
  | nil => cases h
  | cons part rest ih =>
    rw [List.flatten_cons, List.mem_append]
    rcases List.mem_append.1 h with h | h
    · exact (mem_expandTabs h).imp_left Or.inl
    · exact (ih h).imp_left Or.inr

/-- Runs without escapes and transforms are written as what they show, with sequences put in. -/
theorem emit_isStyled (hescape : o.controlEscape = false)
    (htransform : ∀ r ∈ runs, r.handle.style.transform = none)
    (hplain : '\x1b' ∉ (runs.map (·.text)).flatten) (writer : Terminal.Writer) (k : Nat) :
    IsStyled (emit o writer k runs) (expandParts o.tabWidth k (runs.map (·.text))) := by
  induction runs generalizing writer k with
  | nil => exact Terminal.Writer.finish_isStyled writer
  | cons r runs ih =>
    obtain ⟨hr, hrest⟩ := List.forall_mem_cons.1 htransform
    rw [List.map_cons, List.flatten_cons, List.mem_append, not_or] at hplain
    have hvisible : visible o k r.text = expandTabs o.tabWidth k r.text :=
      if_neg (by rw [hescape]; exact Bool.false_ne_true)
    have hshown : '\x1b' ∉ (expandTabs o.tabWidth k r.text).1 := fun h =>
      (mem_expandTabs h).elim hplain.1 (by decide)
    simp only [emit, hvisible, Style.transformed_of_transform_eq_none hr]
    exact (Terminal.Writer.run_isStyled writer _ hshown).append (ih hrest hplain.2 _ _)

end Run

namespace Printer

open Run (AddsUp expandParts expandTabs parts)
open Source (highlighted)
open Styles (highlights)

variable {o : ListingOptions} {p : Printer} {source s s' : Source} {lines : List Text} {w n : Nat}

/-- The listings that replace tabs by spaces and show nothing but the text. -/
structure ReplacesTabs (o : ListingOptions) (w : Nat) : Prop where
  gutter : o.gutter = none
  controlEscape : o.controlEscape = false
  styles : o.styles.HasNoTransform
  tabWidth : o.tabWidth = w

/-- Whether a text has no controls but tabs. -/
def TabsOnly (t : Text) : Prop := ∀ c ∈ t, isControl c = true → c = '\t'

instance (t : Text) : Decidable (TabsOnly t) := List.decidableBAll _ t

theorem TabsOnly.notMem {t : Text} {c : Char} (h : TabsOnly t) (hc : isControl c = true)
    (hne : c ≠ '\t') : c ∉ t := fun hmem => hne (h c hmem hc)

/-! ### Lines -/

/-- The runs of a line hold its text. -/
theorem flatten_parts (styles : Styles) (source : Source) (n : Nat) :
    (parts styles source n).flatten = (source.line? n).getD [] := by
  have hs : Composer.empty.IsSound styles.Gives := (new_isReady { styles }).sound
  rw [parts, Run.flatten_map_text, Run.flatMap_cells_ofLine source hs n,
    List.map_fst_zip (Nat.le_of_eq (Run.length_lineCells source hs n).symm)]

theorem line?_mem_lines (hn : n ∈ allLines source) : (source.line? n).getD [] ∈ source.lines := by
  rw [← map_line?_allLines source]
  exact List.mem_map_of_mem hn

theorem lineText_isStyled (ho : ReplacesTabs o w) (hplain : TabsOnly ((source.line? n).getD [])) :
    IsStyled (lineText o source n) (expandParts w 0 (parts o.styles source n)) := by
  have htransform : ∀ r ∈ (Run.ofLine o.styles source n .empty).1,
      r.handle.style.transform = none := fun r hr =>
    Run.transform_of_mem_ofLine source (new_isReady o).sound n ho.styles hr
  have hescape := hplain.notMem (c := '\x1b') (by decide) (by decide)
  rw [← flatten_parts o.styles] at hescape
  have hline : lineText o source n =
      Run.emit o (.new o.depth) 0 (Run.ofLine o.styles source n .empty).1 := by
    simp only [lineText, line, new, ho.gutter, List.nil_append]
  rw [hline, ← ho.tabWidth]
  exact Run.emit_isStyled ho.controlEscape htransform hescape (.new o.depth) 0

/-! ### Listings -/

/-- Stripped, a listing is the lines of its source, each as its runs show it. -/
theorem strip_print_eq_joinLines (ho : ReplacesTabs o w) (h : p.IsReady o)
    (hplain : ∀ line ∈ source.lines, TabsOnly line) :
    strip (p.print source).1 = Text.joinLines
      ((allLines source).map fun n => expandParts w 0 (parts o.styles source n)) ++
        ending source := by
  have hlines : List.Forall₂ IsStyled ((allLines source).map (lineText o source))
      ((allLines source).map fun n => expandParts w 0 (parts o.styles source n)) := by
    rw [List.forall₂_map_left_iff, List.forall₂_map_right_iff, List.forall₂_same]
    exact fun n hn => lineText_isStyled ho (hplain _ (line?_mem_lines hn))
  rw [print_eq_append, lines_eq h source]
  exact ((IsStyled.joinLines hlines).append (.ofText (escape_notMem_ending source))).strip_eq

/-- Where widths add up, every line is shown as if it came in one run. -/
theorem strip_print_of_addsUp (ho : ReplacesTabs o w) (h : p.IsReady o)
    (hplain : ∀ line ∈ source.lines, TabsOnly line)
    (hwidth : ∀ line ∈ source.lines, AddsUp w line) : strip (p.print source).1 =
      Text.joinLines (source.lines.map fun line => (expandTabs w 0 line).1) ++ ending source := by
  have hline : ∀ n ∈ allLines source, expandParts w 0 (parts o.styles source n) =
      (expandTabs w 0 ((source.line? n).getD [])).1 := by
    intro n hn
    rw [← flatten_parts o.styles]
    refine Run.expandParts_eq (hwidth _ ?_) 0
    rw [flatten_parts]
    exact line?_mem_lines hn
  rw [strip_print_eq_joinLines ho h hplain, List.map_congr_left hline, ← map_line?_allLines source,
    List.map_map]
  rfl

theorem lineFeed_notMem_expandParts (hplain : ∀ line ∈ source.lines, TabsOnly line)
    (styles : Styles) (hn : n ∈ allLines source) :
    '\n' ∉ expandParts w 0 (parts styles source n) := by
  intro hmem
  rcases Run.mem_expandParts hmem with hmem | hspace
  · rw [flatten_parts] at hmem
    exact (hplain _ (line?_mem_lines hn)).notMem (by decide) (by decide) hmem
  · exact absurd hspace (by decide)

/-- Listings with the same text show the same text on every line. -/
theorem expandParts_eq_of_strip_print_eq (ho : ReplacesTabs o w) (h : p.IsReady o)
    (hplain : ∀ line ∈ s.lines, TabsOnly line) (hlines : s'.lines = s.lines)
    (hending : s'.endsWithNewline = s.endsWithNewline)
    (heq : strip (p.print s).1 = strip (p.print s').1) {i : Nat} (hi : i < s.lines.length) :
    expandParts w 0 (parts o.styles s (i + 1)) = expandParts w 0 (parts o.styles s' (i + 1)) := by
  have hnumbers : allLines s' = allLines s := by
    rw [allLines, allLines, Source.lineCount, Source.lineCount, hlines]
  have hne : allLines s ≠ [] := by
    rw [← List.length_pos_iff, length_allLines]
    omega
  have hplain' : ∀ line ∈ s'.lines, TabsOnly line := by rwa [hlines]
  rw [strip_print_eq_joinLines ho h hplain, strip_print_eq_joinLines ho h hplain', ending, ending,
    hending, Source.isEmpty, Source.isEmpty, hlines, List.append_cancel_right_eq] at heq
  have hmap := Text.eq_of_joinWith_eq (by simpa using hne) (by simpa [hnumbers] using hne)
    (List.forall_mem_map.2 fun _ hn => lineFeed_notMem_expandParts hplain o.styles hn)
    (List.forall_mem_map.2 fun _ hn => lineFeed_notMem_expandParts hplain' o.styles hn) heq
  rw [hnumbers, List.map_inj_left] at hmap
  exact hmap (i + 1) (List.mem_of_getElem? (getElem?_allLines s hi))

/-! ### Listings of the same lines -/

/-- Whether all listings of some lines show the same text, whatever segments and overlays are on the
lines, whatever was printed before and however styles look. -/
def StylingKeepsText (w : Nat) (lines : List Text) : Prop :=
  ∀ (o : ListingOptions) (p p' : Printer) (s s' : Source), ReplacesTabs o w → p.IsUsed o →
    p'.IsUsed o → s.IsReachable → s'.IsReachable → s.lines = lines → s'.lines = lines →
    s.endsWithNewline = s'.endsWithNewline → strip (p.print s).1 = strip (p'.print s').1

theorem stylingKeepsText_of_addsUp (hplain : ∀ line ∈ lines, TabsOnly line)
    (hwidth : ∀ line ∈ lines, AddsUp w line) : StylingKeepsText w lines := by
  rintro o p p' s s' ho hp hp' - - rfl hlines hending
  have hplain' : ∀ line ∈ s'.lines, TabsOnly line := by rwa [hlines]
  have hwidth' : ∀ line ∈ s'.lines, AddsUp w line := by rwa [hlines]
  rw [strip_print_of_addsUp ho hp.isReady hplain hwidth,
    strip_print_of_addsUp ho hp'.isReady hplain' hwidth', hlines, ending, ending, hending,
    Source.isEmpty, Source.isEmpty, hlines]

/-- Listings with highlights. -/
def highlightOptions (w : Nat) : ListingOptions :=
  { styles := highlights, controlEscape := false, tabWidth := w }

theorem highlightOptions_replacesTabs (w : Nat) : ReplacesTabs (highlightOptions w) w :=
  ⟨rfl, rfl, Styles.highlights_hasNoTransform, rfl⟩

/-- The parts that a highlight makes of a line, with or without a part before it. -/
theorem expandParts_highlighted {x q r : Text} {i : Nat} (hline : lines[i]? = some (x ++ q ++ r))
    (hq : q ≠ []) (hr : r ≠ []) : expandParts w 0
      (parts (highlightOptions w).styles (highlighted lines i x q) (i + 1)) =
      expandParts w 0 [x, q, r] := by
  have hparts := Run.parts_highlighted hline hq hr
  have hstyles : (highlightOptions w).styles = highlights := rfl
  rw [hstyles, hparts]
  split
  · next hx => rw [hx, Run.expandParts_cons_nil]
  · rfl

/-- Two highlights before a tab, of which one reaches further, show whether the widths there add up.
-/
theorem addsUp_of_stylingKeepsText (hplain : ∀ line ∈ lines, TabsOnly line)
    (h : StylingKeepsText w lines) : ∀ line ∈ lines, AddsUp w line := by
  intro line hline b c hb hc hoccurs
  obtain ⟨i, hi⟩ := List.getElem?_of_mem hline
  obtain ⟨x, y, rfl⟩ := hoccurs
  obtain rfl | hbne := eq_or_ne b []
  · rw [List.nil_append, Unicode.textWidth_nil, Nat.zero_add]
  obtain rfl | hcne := eq_or_ne c []
  · rw [List.append_nil, Unicode.textWidth_nil, Nat.add_zero]
  have ho := highlightOptions_replacesTabs w
  have hlines := Source.lines_highlighted lines i x b
  have hstrip := h (highlightOptions w) (new _) (new _) (highlighted lines i x b)
    (highlighted lines i x (b ++ c)) ho .new .new (Source.highlighted_isReachable _ _ _ _)
    (Source.highlighted_isReachable _ _ _ _) hlines (Source.lines_highlighted _ _ _ _)
    ((Source.endsWithNewline_highlighted _ _ _ _).trans
      (Source.endsWithNewline_highlighted _ _ _ _).symm)
  have hparts := expandParts_eq_of_strip_print_eq ho (new_isReady _) (by rwa [hlines])
    ((Source.lines_highlighted _ _ _ _).trans hlines.symm)
    ((Source.endsWithNewline_highlighted _ _ _ _).trans
      (Source.endsWithNewline_highlighted _ _ _ _).symm) hstrip (i := i)
    (by rw [hlines]; exact (List.getElem?_eq_some_iff.1 hi).1)
  have hshort : lines[i]? = some (x ++ b ++ (c ++ '\t' :: y)) := by simpa using hi
  have hlong : lines[i]? = some (x ++ (b ++ c) ++ '\t' :: y) := by simpa using hi
  rw [expandParts_highlighted hshort hbne (by simp), expandParts_highlighted hlong (by simp [hbne])
    (List.cons_ne_nil _ _)] at hparts
  exact Run.modEq_of_expandParts_eq hb hc hparts

/-- Styling never changes the text of listings of some lines if and only if the widths before every
tab add up, wherever the text there is cut. -/
theorem stylingKeepsText_iff (hplain : ∀ line ∈ lines, TabsOnly line) :
    StylingKeepsText w lines ↔ ∀ line ∈ lines, AddsUp w line :=
  ⟨addsUp_of_stylingKeepsText hplain, stylingKeepsText_of_addsUp hplain⟩

/-- A line with a wide character and one with a mark that takes no column. -/
theorem stylingKeepsText_wideAndMarked :
    StylingKeepsText 4 [['a', '\u65e5', '\t', 'b'], ['e', '\u0301', '\t', '\t'], []] := by
  refine (stylingKeepsText_iff (by decide)).2 fun line hline => Run.addsUp_of_standAlone 4 ?_
  have halone : ∀ line ∈ [['a', '\u65e5', '\t', 'b'], ['e', '\u0301', '\t', '\t'], []],
      line.all Unicode.standsAlone = true := by decide +kernel
  exact List.all_eq_true.1 (halone line hline)

/-- A heart and the selector after it take two columns, and if only the heart is highlighted they
are measured as one and none. -/
theorem not_stylingKeepsText :
    ¬ ∀ (w : Nat) (lines : List Text), (∀ line ∈ lines, TabsOnly line) →
      StylingKeepsText w lines := by
  intro h
  have hplain : ∀ line ∈ [['\u2764', '\ufe0f', '\t', 'x']], TabsOnly line := by decide
  have hwidth := addsUp_of_stylingKeepsText hplain (h 4 _ hplain) _ (List.mem_singleton_self _)
    ['\u2764'] ['\ufe0f'] (by decide) (by decide) ⟨[], ['x'], rfl⟩
  exact absurd hwidth (by decide +kernel)

end Printer

end YamlListing

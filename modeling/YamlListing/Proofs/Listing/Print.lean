import YamlListing.Proofs.Listing.Line

set_option autoImplicit false

/-! # What a listing shows

A printer may have printed anything before: its composer stays sound (`IsUsed.isReady`), and so what
it prints next does not depend on it. With controls made visible and without transforms and gutter,
a listing shows the lines of its source, each character in the look of its position
(`cell?_print`), and nothing else of it reaches a terminal (`strip_print`). -/

namespace YamlListing.Printer

open Terminal (Shows IsStyled IsRow EscapesSet Screen Cell)

/-- The printers that a listing with some options may have used before. -/
inductive IsUsed (o : ListingOptions) : Printer → Prop
  | new : IsUsed o (new o)
  | print {p : Printer} (h : IsUsed o p) (source : Source) : IsUsed o (p.print source).2
  | printSlice {p : Printer} (h : IsUsed o p) (source : Source) (first last : Nat) :
    IsUsed o (p.printSlice source first last).2
  | printSpans {p : Printer} (h : IsUsed o p) (source : Source) (spans : List Span) :
    IsUsed o (p.printSpans source spans).2

/-- A printer whose composer remembers nothing wrong. -/
structure IsReady (o : ListingOptions) (p : Printer) : Prop where
  options : p.options = o
  sound : p.composer.IsSound o.styles.Gives

section IsReady

variable {o : ListingOptions} {p : Printer}

theorem line_isReady (h : p.IsReady o) (source : Source) (n : Nat) :
    (p.line source n).2.IsReady o := by
  obtain ⟨rfl, hs⟩ := h
  exact ⟨rfl, (Run.lineCells_blends source hs n).sound⟩

/-- Lines are put together from what is printed of each. -/
theorem lines_eq_joinLines (source : Source) (prints : Nat → Text → Prop)
    (hline : ∀ (p : Printer) (n : Nat), p.IsReady o → prints n (p.line source n).1)
    (h : p.IsReady o) (numbers : List Nat) :
    ∃ outs, (p.lines source numbers).1 = Text.joinLines outs ∧
      List.Forall₂ prints numbers outs ∧ (p.lines source numbers).2.IsReady o := by
  induction numbers generalizing p with
  | nil => exact ⟨[], rfl, .nil, h⟩
  | cons n numbers ih =>
    -- The other lines are printed by the printer that the first one leaves.
    have hfirst := line_isReady h source n
    obtain ⟨outs, heq, houts, hready⟩ := ih hfirst
    cases numbers with
    | nil => exact ⟨[(p.line source n).1], rfl, .cons (hline p n h) .nil, hfirst⟩
    | cons m numbers =>
      cases houts with
      | @cons _ out _ outs hout houts =>
        refine ⟨(p.line source n).1 :: out :: outs, ?_, .cons (hline p n h) (.cons hout houts),
          hready⟩
        simp only [lines, heq, Text.joinLines, Text.joinWith, List.append_assoc,
          List.singleton_append]

theorem lines_isReady (h : p.IsReady o) (source : Source) (numbers : List Nat) :
    (p.lines source numbers).2.IsReady o := by
  obtain ⟨-, -, -, hready⟩ :=
    lines_eq_joinLines source (fun _ _ => True) (fun _ _ _ => trivial) h numbers
  exact hready

theorem groups_isReady (h : p.IsReady o) (source : Source) (groups : List (List Nat)) :
    (p.groups source groups).2.IsReady o := by
  induction groups generalizing p with
  | nil => exact h
  | cons numbers rest ih =>
    have hfirst := lines_isReady h source numbers
    cases rest with
    | nil => exact hfirst
    | cons next rest => exact ih hfirst

theorem new_isReady (o : ListingOptions) : (new o).IsReady o :=
  ⟨rfl, Composer.empty_isSound (fun _ _ ha hb => ha.eq_of_id_eq hb)
    fun _ n hgives => hgives.id_ne_composed n⟩

/-- Whatever a printer has printed, its composer remembers nothing wrong. -/
theorem IsUsed.isReady (h : p.IsUsed o) : p.IsReady o := by
  induction h with
  | new => exact new_isReady o
  | print _ source ih => exact lines_isReady ih source _
  | printSlice _ source first last ih => exact lines_isReady ih source _
  | printSpans _ source spans ih => exact groups_isReady ih source _

end IsReady

/-! ## Lines -/

section prints

variable {o : ListingOptions} {p : Printer} (source : Source)

/-- The text in front of a line. -/
def gutterText (o : ListingOptions) (source : Source) (n : Nat) : Text :=
  match o.gutter with
  | some gutter => gutter ⟨source, o.styles, o.depth⟩ n
  | none => []

theorem not_mem_of_mem_styled {runs : List Run} {r : Style × Text} (h : r ∈ runs.map Run.styled) :
    '\x1b' ∉ r.2 := by
  obtain ⟨run, -, rfl⟩ := List.mem_map.1 h
  exact Terminal.not_mem_escape (by decide) run.text

/-- With controls made visible and without transforms, a line is what a writer writes of its runs,
after the gutter. -/
theorem line_eq_append (hescape : o.controlEscape = true) (hstyles : o.styles.HasNoTransform)
    (h : p.IsReady o) (n : Nat) :
    (p.line source n).1 = gutterText o source n ++ (Terminal.Writer.new o.depth).line
      ((Run.ofLine o.styles source n p.composer).1.map Run.styled) := by
  obtain ⟨rfl, hs⟩ := h
  rw [← Run.emit_eq_line hescape
    (fun r hr => Run.transform_of_mem_ofLine source hs n hstyles hr) _ 0]
  rfl

/-- What the text of a line of a listing is and what it shows. -/
structure PrintsLine (o : ListingOptions) (source : Source) (n : Nat) (out : Text) : Prop where
  styled : IsStyled out (Terminal.escape ((source.line? n).getD []))
  shows : Shows out (source.shownLine o.styles o.depth n)

theorem line_prints (hgutter : o.gutter = none) (hescape : o.controlEscape = true)
    (hstyles : o.styles.HasNoTransform) (h : p.IsReady o) (n : Nat) :
    PrintsLine o source n (p.line source n).1 := by
  have hline := line_eq_append source hescape hstyles h n
  rw [gutterText, hgutter, List.nil_append] at hline
  obtain ⟨rfl, hs⟩ := h
  refine ⟨?_, ?_⟩
  · rw [hline, ← Run.text_ofLine source hs n]
    exact Terminal.Writer.line_isStyled _ fun _ => not_mem_of_mem_styled
  · intro shown
    rw [hline, ← Run.shown_ofLine source hs n]
    exact Terminal.Writer.read_line (.new p.options.depth) shown fun _ => not_mem_of_mem_styled

/-! ## The whole listing -/

/-- The line feed after the last line of a listing, if the text of its source had one. -/
def ending (source : Source) : Text :=
  if source.endsWithNewline && !source.isEmpty then ['\n'] else []

theorem getElem?_allLines {i : Nat} (h : i < source.lines.length) :
    (allLines source)[i]? = some (i + 1) := by
  rw [allLines, Source.numbers, Source.lineCount, List.getElem?_range' (by omega), Nat.one_mul,
    Nat.add_comm]

theorem length_allLines : (allLines source).length = source.lines.length := by
  rw [allLines, Source.numbers, Source.lineCount, List.length_range']
  omega

theorem allLines_eq_nil_iff : allLines source = [] ↔ source.isEmpty = true := by
  rw [← List.length_eq_zero_iff, length_allLines, List.length_eq_zero_iff, Source.isEmpty,
    List.isEmpty_iff]

/-- The lines of a listing are those of its source. -/
theorem map_line?_allLines :
    (allLines source).map (fun n => (source.line? n).getD []) = source.lines := by
  refine List.ext_getElem? fun i => ?_
  rw [List.getElem?_map]
  by_cases hi : i < source.lines.length
  · rw [getElem?_allLines source hi, Option.map_some, Source.line?_succ,
      List.getElem?_eq_getElem hi, Option.getD_some]
  · rw [List.getElem?_eq_none (by rw [length_allLines]; omega),
      List.getElem?_eq_none (by omega), Option.map_none]

theorem print_eq_append (p : Printer) (source : Source) :
    (p.print source).1 = (p.lines source (allLines source)).1 ++ ending source := by
  simp only [print, ending]
  split
  · rfl
  · rw [List.append_nil]

theorem print_eq (hgutter : o.gutter = none) (hescape : o.controlEscape = true)
    (hstyles : o.styles.HasNoTransform) (h : p.IsReady o) :
    ∃ outs, (p.print source).1 = Text.joinLines outs ++ ending source ∧
      List.Forall₂ (PrintsLine o source) (allLines source) outs := by
  obtain ⟨outs, heq, houts, -⟩ := lines_eq_joinLines source (PrintsLine o source)
    (fun p n hp => line_prints source hgutter hescape hstyles hp n) h (allLines source)
  exact ⟨outs, by rw [print_eq_append, heq], houts⟩

/-! ### Three lines

The theorems below are tried on a source whose first line has a tab and an escape, a segment, one
without width and two overlays that reach into each other, one of them from line to line. -/

/-- Italic comments and underlined highlights over dim text, on a terminal of sixteen colors. -/
def threeLinesOptions : ListingOptions :=
  { styles := ⟨0, Style.plain.dim,
      [(.comment, Style.plain.italic), (.highlight, Style.plain.underline)]⟩
    depth := .ansi16 }

def threeLines : Source :=
  { name := none
    lines := [['a', '\t', '\x1b'], [], ['b']]
    endsWithNewline := true
    segments := [[⟨1, 3, .comment⟩, ⟨3, 3, .literalNullImplicit⟩], [], []]
    classified := true
    overlays := [⟨.highlight, ⟨⟨1, 2⟩, ⟨3, 2⟩⟩⟩, ⟨.title, ⟨⟨1, 1⟩, ⟨2, 1⟩⟩⟩] }

theorem threeLinesOptions_hasNoTransform : threeLinesOptions.styles.HasNoTransform := by
  refine Styles.hasNoTransform_of_forall rfl ?_
  intro entry hentry
  simp only [threeLinesOptions, List.mem_cons, List.not_mem_nil, or_false] at hentry
  rcases hentry with rfl | rfl <;> rfl

/-! ### Its text -/

theorem escape_notMem_ending (source : Source) : '\x1b' ∉ ending source := by
  rw [ending]
  split <;> decide

theorem print_isStyled (hgutter : o.gutter = none) (hescape : o.controlEscape = true)
    (hstyles : o.styles.HasNoTransform) (h : p.IsReady o) :
    IsStyled (p.print source).1
      (Text.joinLines (source.lines.map Terminal.escape) ++ ending source) := by
  obtain ⟨outs, heq, houts⟩ := print_eq source hgutter hescape hstyles h
  have hlines : List.Forall₂ IsStyled outs (source.lines.map Terminal.escape) := by
    rw [← map_line?_allLines source, List.map_map, List.forall₂_map_right_iff]
    exact List.Forall₂.flip (houts.imp fun _ _ hline => hline.styled)
  rw [heq]
  exact (IsStyled.joinLines hlines).append (.ofText (escape_notMem_ending source))

theorem eq_lineFeed_of_mem_joinLines {lines : List Text} {c : Char}
    (h : c ∈ Text.joinLines (lines.map Terminal.escape)) (hcontrol : Terminal.isControl c = true) :
    c = '\n' := by
  induction lines with
  | nil => cases h
  | cons line lines ih =>
    cases lines with
    | nil => exact absurd h (Terminal.not_mem_escape hcontrol line)
    | cons next lines =>
      rw [Text.joinLines, List.map_cons, List.map_cons, Text.joinWith, List.append_assoc,
        List.mem_append, List.mem_append, List.mem_singleton] at h
      rcases h with h | h | h
      · exact absurd h (Terminal.not_mem_escape hcontrol line)
      · exact h
      · exact ih h

theorem count_lineFeed_joinLines (lines : List Text) :
    (Text.joinLines (lines.map Terminal.escape)).count '\n' = lines.length - 1 := by
  have hline : ∀ line, (Terminal.escape line).count '\n' = 0 := fun line =>
    List.count_eq_zero.2 (Terminal.not_mem_escape (by decide) line)
  induction lines with
  | nil => rfl
  | cons line lines ih =>
    cases lines with
    | nil => exact hline line
    | cons next lines =>
      rw [Text.joinLines, List.map_cons, List.map_cons, Text.joinWith, List.count_append,
        List.count_append, hline, ← List.map_cons]
      rw [Text.joinLines] at ih
      rw [ih]
      simp only [List.length_cons, List.count_cons_self, List.count_nil]
      omega

/-- Taken out of its sequences, a listing is the lines of its source with their controls made
visible, whatever segments and overlays are on them, and a final line feed if the source has one.
Every escape begins a sequence that sets graphics, and of the other controls there are only line
feeds, one between any two lines and perhaps the final one. -/
theorem strip_print (hgutter : o.gutter = none) (hescape : o.controlEscape = true)
    (hstyles : o.styles.HasNoTransform) (h : p.IsUsed o) (source : Source) :
    Terminal.strip (p.print source).1 = Text.joinLines (source.lines.map Terminal.escape) ++
        (if source.endsWithNewline && !source.isEmpty then ['\n'] else []) ∧
      EscapesSet (p.print source).1 ∧
      (∀ c ∈ (p.print source).1, Terminal.isControl c = true → c = '\x1b' ∨ c = '\n') ∧
      (p.print source).1.count '\n' = (source.lines.length - 1) +
        (if source.endsWithNewline && !source.isEmpty then 1 else 0) := by
  have hstyled := print_isStyled source hgutter hescape hstyles h.isReady
  refine ⟨hstyled.strip_eq, hstyled.escapesSet, ?_, ?_⟩
  · intro c hc hcontrol
    refine (hstyled.control_cases hc hcontrol).imp_right ?_
    intro hshown
    rcases List.mem_append.1 hshown with hshown | hshown
    · exact eq_lineFeed_of_mem_joinLines hshown hcontrol
    · rw [ending] at hshown
      split at hshown
      · exact List.mem_singleton.1 hshown
      · cases hshown
  · rw [hstyled.count_eq (by decide) (by decide), List.count_append, count_lineFeed_joinLines,
      ending]
    split <;> rfl

/-- A printer that has printed them before prints three lines; the tab and the escape are shown. -/
theorem strip_print_threeLines :
    let out := (((new threeLinesOptions).print threeLines).2.print threeLines).1
    Terminal.strip out = ['a', '\u2409', '\u241b', '\n', '\n', 'b', '\n'] ∧
      EscapesSet out ∧ out.count '\n' = 3 := by
  obtain ⟨hstrip, hescapes, -, hcount⟩ := strip_print rfl rfl threeLinesOptions_hasNoTransform
    (.print .new threeLines) threeLines
  exact ⟨hstrip, hescapes, hcount⟩

/-! ### What it shows -/

theorem shownLine_isRow (styles : Styles) (depth : ColorDepth) (n : Nat) :
    IsRow (source.shownLine styles depth n) := by
  intro cell hcell hfeed
  obtain ⟨i, hi, rfl⟩ := List.mem_mapIdx.1 hcell
  have hcontrol := Terminal.isControl_escapeChar ((source.line? n).getD [])[i]
  have hchar : Terminal.escapeChar ((source.line? n).getD [])[i] = '\n' := hfeed
  rw [hchar] at hcontrol
  cases hcontrol

theorem joinLines_append_nil {outs : List Text} (h : outs ≠ []) :
    Text.joinLines (outs ++ [[]]) = Text.joinLines outs ++ ['\n'] := by
  induction outs with
  | nil => exact absurd rfl h
  | cons out outs ih =>
    cases outs with
    | nil => simp [Text.joinLines, Text.joinWith]
    | cons next outs =>
      have hrest := ih (List.cons_ne_nil _ _)
      simp only [Text.joinLines, List.cons_append, Text.joinWith, List.append_assoc] at hrest ⊢
      rw [hrest]

/-- The rows of a listing are the lines of its source, and an empty one after a final line feed. -/
theorem rows_print (hgutter : o.gutter = none) (hescape : o.controlEscape = true)
    (hstyles : o.styles.HasNoTransform) (h : p.IsReady o) (hne : source.isEmpty = false) :
    (Screen.blank.read (p.print source).1).rows =
      (allLines source).map (source.shownLine o.styles o.depth) ++
        (if source.endsWithNewline then [[]] else []) := by
  obtain ⟨outs, heq, houts⟩ := print_eq source hgutter hescape hstyles h
  have hrows : List.Forall₂ Shows outs
      ((allLines source).map (source.shownLine o.styles o.depth)) := by
    rw [List.forall₂_map_right_iff]
    exact List.Forall₂.flip (houts.imp fun _ _ hline => hline.shows)
  have hisRow : ∀ row ∈ (allLines source).map (source.shownLine o.styles o.depth), IsRow row := by
    intro row hrow
    obtain ⟨n, -, rfl⟩ := List.mem_map.1 hrow
    exact shownLine_isRow source o.styles o.depth n
  have hall : allLines source ≠ [] := by
    rw [Ne, allLines_eq_nil_iff, hne]
    exact Bool.false_ne_true
  have houtsNe : outs ≠ [] := by
    rintro rfl
    exact hall (List.forall₂_nil_right_iff.1 houts)
  rw [heq, ending, hne, Bool.not_false, Bool.and_true]
  cases source.endsWithNewline with
  | false =>
    have hnonempty : (allLines source).map (source.shownLine o.styles o.depth) ≠ [] :=
      mt List.map_eq_nil_iff.1 hall
    simp only [Bool.false_eq_true, if_false, List.append_nil]
    exact Terminal.rows_joinLines hrows hnonempty hisRow
  | true =>
    -- The final line feed counts as one between the last line and an empty one.
    rw [if_pos rfl, if_pos rfl, ← joinLines_append_nil houtsNe]
    refine Terminal.rows_joinLines ?_ (by simp) ?_
    · exact List.rel_append hrows (.cons Terminal.shows_nil .nil)
    · intro row hrow
      rcases List.mem_append.1 hrow with hrow | hrow
      · exact hisRow row hrow
      · rw [List.mem_singleton.1 hrow]
        exact List.forall_mem_nil _

/-- A terminal shows each character of a source, made visible, in its row and column, in the look of
its style: that of the category of the segment there, with those of the overlays there blended over
in the order in which they were laid. -/
theorem cell?_print (hgutter : o.gutter = none) (hescape : o.controlEscape = true)
    (hstyles : o.styles.HasNoTransform) (h : p.IsUsed o) (source : Source) {i j : Nat}
    {text : Text} {c : Char} (hline : source.lines[i]? = some text) (hchar : text[j]? = some c) :
    (Screen.blank.read (p.print source).1).cell? i j =
      some ⟨Terminal.escapeChar c, (source.styleAt o.styles ⟨i + 1, j + 1⟩).look o.depth⟩ := by
  obtain ⟨hi, -⟩ := List.getElem?_eq_some_iff.1 hline
  have hne : source.isEmpty = false := by
    cases hlines : source.lines with
    | nil =>
      rw [hlines] at hi
      cases hi
    | cons first rest => rw [Source.isEmpty, hlines, List.isEmpty_cons]
  have hrow : (Screen.blank.read (p.print source).1).rows[i]? =
      some (source.shownLine o.styles o.depth (i + 1)) := by
    rw [rows_print source hgutter hescape hstyles h.isReady hne, List.getElem?_append_left
      (by rw [List.length_map, length_allLines]; exact hi), List.getElem?_map,
      getElem?_allLines source hi, Option.map_some]
  rw [Screen.cell?, hrow, Option.bind_some, Source.shownLine, Source.line?_succ, hline,
    Option.getD_some, List.getElem?_mapIdx, hchar, Option.map_some]

/-- The tab is part of a comment, and the overlays on it add a line below it. -/
theorem cell?_print_threeLines :
    let out := (((new threeLinesOptions).print threeLines).2.print threeLines).1
    (Screen.blank.read out).cell? 0 1 =
      some ⟨'\u2409', .default, .default, { dim := true, italic := true, underline := true }⟩ := by
  have hcell := cell?_print rfl rfl threeLinesOptions_hasNoTransform (.print .new threeLines)
    threeLines (i := 0) (j := 1) rfl rfl
  have htext : threeLinesOptions.styles.style .text = Style.plain.dim := Styles.style_text rfl
  have hcomment : threeLinesOptions.styles.style .comment =
      Style.plain.dim.overrideStyle Style.plain.italic := by
    rw [Styles.style_of_own rfl rfl, Category.parent, htext]
  have hhighlight : threeLinesOptions.styles.style .highlight =
      Style.plain.dim.overrideStyle Style.plain.underline := by
    rw [Styles.style_of_own rfl rfl, Category.parent, htext]
  have htitle : threeLinesOptions.styles.style .title = Style.plain.dim := by
    rw [Styles.style_of_inherited rfl rfl, Category.parent, htext]
  have hstyle : threeLines.styleAt threeLinesOptions.styles ⟨0 + 1, 1 + 1⟩ =
      ((Style.plain.dim.overrideStyle Style.plain.italic).blendStyle
        (Style.plain.dim.overrideStyle Style.plain.underline)).blendStyle Style.plain.dim := by
    rw [← hcomment, ← hhighlight, ← htitle]
    rfl
  rw [hstyle] at hcell
  exact hcell

end prints

end YamlListing.Printer

import YamlListing.Listing.Selection
import YamlListing.Proofs.Listing.Memory
import YamlListing.Proofs.Text.Place

set_option autoImplicit false

/-! # Line feeds of a listing

The last line feed of what is chosen of a source is put there by the look of the text that was
printed. A text that is empty or ends with a line feed gets none, so a last line that shows nothing
goes without its own (`Selection.print_ended`). That happens to blank lines where nothing stands in
front of them (`Printer.isBare_lineText_iff`). -/

namespace YamlListing

open Terminal (IsStyled)

namespace Selection

/-! ## Texts that get no line feed -/

/-- Whether a text is empty or ends with a line feed. -/
def IsBare (t : Text) : Prop := t = [] ∨ t.getLast? = some '\n'

instance (t : Text) : Decidable (IsBare t) := inferInstanceAs (Decidable (_ ∨ _))

theorem terminated_of_isBare {t : Text} (h : IsBare t) : terminated t = t :=
  if_pos (by simpa [IsBare] using h)

theorem terminated_of_not_isBare {t : Text} (h : ¬ IsBare t) : terminated t = t ++ ['\n'] :=
  if_neg (by simpa [IsBare] using h)

/-- Lines are bare together if the last of them is. -/
theorem isBare_joinLines_concat (front : List Text) (last : Text) :
    IsBare (Text.joinLines (front ++ [last])) ↔ IsBare last := by
  cases front with
  | nil => exact Iff.rfl
  | cons line lines =>
    rw [Text.joinLines_concat, IsBare, IsBare, List.getLast?_append]
    cases last with
    | nil => simp
    | cons c rest => simp [List.getLast?_cons_cons]

/-- Whether the last of some texts is bare. -/
def EndsBare (texts : List Text) : Prop := ∃ t ∈ texts.getLast?, IsBare t

instance (texts : List Text) : Decidable (EndsBare texts) := by
  unfold EndsBare
  infer_instance

/-- What joined lines lack if they are terminated as a whole and not one by one. -/
theorem terminated_joinLines_append (texts : List Text) :
    terminated (Text.joinLines texts) ++ (if EndsBare texts then ['\n'] else []) =
      Text.terminated texts := by
  rcases List.eq_nil_or_concat texts with rfl | ⟨front, last, rfl⟩
  · rfl
  · have hbare : EndsBare (front ++ [last]) ↔ IsBare (Text.joinLines (front ++ [last])) := by
      rw [isBare_joinLines_concat, EndsBare, List.getLast?_concat]
      simp
    rw [List.concat_eq_append, Text.terminated_eq_joinLines (by simp)]
    by_cases h : IsBare (Text.joinLines (front ++ [last]))
    · rw [terminated_of_isBare h, if_pos (hbare.2 h)]
    · rw [terminated_of_not_isBare h, if_neg (mt hbare.1 h), List.append_nil]

end Selection

namespace Printer

open Selection (IsBare)

variable {o : ListingOptions} {p : Printer}

/-! ## Lines that show nothing -/

/-- What comes after the gutter is the line with its controls made visible; nothing, if it is empty.
-/
theorem exists_lineText_eq (hescape : o.controlEscape = true) (hstyles : o.styles.HasNoTransform)
    (source : Source) (n : Nat) :
    ∃ body, lineText o source n = gutterText o source n ++ body ∧
      IsStyled body (Terminal.escape ((source.line? n).getD [])) ∧
      ((source.line? n).getD [] = [] → body = []) := by
  have hready := new_isReady o
  refine ⟨_, line_eq_append source hescape hstyles hready n, ?_, fun hempty => ?_⟩
  · rw [← Run.text_ofLine source hready.sound n]
    exact Terminal.Writer.line_isStyled _ fun _ => not_mem_of_mem_styled
  · rw [Run.ofLine_eq, Run.insertions_eq_nil hstyles, hempty, List.zip_nil_left, Run.runsFrom]
    rfl

/-- With controls made visible and without transforms, a line is bare if it is blank and nothing but
bare text stands in front of it. -/
theorem isBare_lineText_iff (hescape : o.controlEscape = true)
    (hstyles : o.styles.HasNoTransform) (source : Source) (n : Nat) :
    IsBare (lineText o source n) ↔
      (source.line? n).getD [] = [] ∧ IsBare (gutterText o source n) := by
  obtain ⟨body, heq, hstyled, hempty⟩ := exists_lineText_eq hescape hstyles source n
  rw [heq]
  by_cases hline : (source.line? n).getD [] = []
  · rw [hempty hline, List.append_nil, and_iff_right hline]
  · -- The body is not empty and has no line feed at all.
    have hbody : body ≠ [] := by
      rintro rfl
      have hshown := hstyled.strip_eq
      rw [Terminal.strip, eq_comm, Terminal.escape, List.map_eq_nil_iff] at hshown
      exact hline hshown
    have hnewline : '\n' ∉ body := by
      intro hmem
      rcases hstyled.control_cases hmem (by decide) with hfeed | hshown
      · cases hfeed
      · exact Terminal.not_mem_escape (by decide) _ hshown
    refine iff_of_false ?_ fun h => hline h.1
    rintro (hnil | hlast)
    · exact hbody (List.append_eq_nil_iff.1 hnil).2
    · rw [List.getLast?_append, List.getLast?_eq_some_getLast hbody, Option.some_or] at hlast
      rw [← Option.some.inj hlast] at hnewline
      exact hnewline (List.getLast_mem hbody)

end Printer

namespace Selection

open Printer (lineText allLines linesWithin gutterText)

variable {o : ListingOptions} {p : Printer}

/-! ## Both ways to list lines -/

/-- The texts of lines, each with a line feed after it. -/
def ended (o : ListingOptions) (source : Source) (numbers : List Nat) : Text :=
  Text.terminated (numbers.map (lineText o source))

/-- Whether a listing is its lines, each with a line feed, and a range of it those of the range. -/
def AgreesWithWhole (p : Printer) (source : Source) (r : LineRange) : Prop :=
  print p source .whole = ended p.options source (allLines source) ∧
    print p source (.range r) = ended p.options source (linesWithin source r.first r.last)

/-- Whether the last of some lines is bare in a listing. -/
def LastIsBare (o : ListingOptions) (source : Source) (numbers : List Nat) : Prop :=
  EndsBare (numbers.map (lineText o source))

instance (o : ListingOptions) (source : Source) (numbers : List Nat) :
    Decidable (LastIsBare o source numbers) := inferInstanceAs (Decidable (EndsBare _))

theorem lastIsBare_of_getLast? {source : Source} {numbers : List Nat} {n : Nat}
    (h : numbers.getLast? = some n) :
    LastIsBare o source numbers ↔ IsBare (lineText o source n) := by
  simp [LastIsBare, EndsBare, h]

section print

variable (h : p.IsReady o) (source : Source)
include h

theorem print_range_append (r : LineRange) :
    print p source (.range r) ++
        (if LastIsBare o source (linesWithin source r.first r.last) then ['\n'] else []) =
      ended o source (linesWithin source r.first r.last) := by
  have hslice : (p.printSlice source r.first (min r.last source.lineCount)).1 =
      Text.joinLines ((linesWithin source r.first r.last).map (lineText o source)) := by
    rw [Printer.printSlice, Printer.lines_eq h, linesWithin, Nat.min_assoc, Nat.min_self]
    rfl
  have hprint : print p source (.range r) =
      terminated (p.printSlice source r.first (min r.last source.lineCount)).1 := rfl
  rw [hprint, hslice]
  exact terminated_joinLines_append _

/-- A whole listing gets its last line feed from the source, if the text of that ended with one. -/
theorem print_whole_append :
    print p source .whole ++
        (if source.endsWithNewline = false ∧ LastIsBare o source (allLines source) then ['\n']
          else []) =
      ended o source (allLines source) := by
  have hprint : print p source .whole =
      terminated ((p.lines source (allLines source)).1 ++ Printer.ending source) := by
    rw [← Printer.print_eq_append]
    rfl
  rw [hprint, Printer.lines_eq h, ended, Printer.ending]
  cases hfeed : source.endsWithNewline with
  | false =>
    simp only [Bool.false_and, Bool.false_eq_true, if_false, true_and, List.append_nil]
    exact terminated_joinLines_append _
  | true =>
    simp only [Bool.true_and, Bool.true_eq_false, false_and, if_false, List.append_nil]
    cases hsource : source.isEmpty with
    | true =>
      rw [(Printer.allLines_eq_nil_iff source).2 hsource]
      rfl
    | false =>
      have hne : (allLines source).map (lineText o source) ≠ [] := by
        rw [Ne, List.map_eq_nil_iff, Printer.allLines_eq_nil_iff, hsource]
        exact Bool.false_ne_true
      rw [Bool.not_false, if_pos rfl, Text.terminated_eq_joinLines hne]
      exact terminated_of_isBare (Or.inr List.getLast?_concat)

end print

theorem append_line_feed_eq_iff {t u : Text} {c : Prop} [Decidable c]
    (h : t ++ (if c then ['\n'] else []) = u) : t = u ↔ ¬ c := by
  subst h
  by_cases hc : c <;> simp [hc]

/-- What is listed of a source are the chosen lines, each with a line feed, but that a last line
which is bare goes without it; a whole listing lacks it only if the text of the source did not end
with one either. So a range is listed as in the whole listing unless the last line of one of them is
bare. If controls are made visible and there are no transforms, the lines that are bare are blank
lines. -/
theorem print_ended (h : p.IsUsed o) (source : Source) (r : LineRange) :
    let chosen := linesWithin source r.first r.last
    print p source (.range r) ++ (if LastIsBare o source chosen then ['\n'] else []) =
        ended o source chosen ∧
      print p source .whole ++
          (if source.endsWithNewline = false ∧ LastIsBare o source (allLines source) then ['\n']
            else []) =
        ended o source (allLines source) ∧
      (AgreesWithWhole p source r ↔ ¬ LastIsBare o source chosen ∧
        ¬ (source.endsWithNewline = false ∧ LastIsBare o source (allLines source))) ∧
      (o.controlEscape = true → o.styles.HasNoTransform → ∀ n, IsBare (lineText o source n) ↔
        (source.line? n).getD [] = [] ∧ IsBare (gutterText o source n)) := by
  intro chosen
  have hrange := print_range_append h.isReady source r
  have hwhole := print_whole_append h.isReady source
  refine ⟨hrange, hwhole, ?_, fun hescape hstyles n =>
    Printer.isBare_lineText_iff hescape hstyles source n⟩
  rw [AgreesWithWhole, h.isReady.options, append_line_feed_eq_iff hwhole,
    append_line_feed_eq_iff hrange]
  exact And.comm

/-- The second one of three lines is blank: a range that ends with it lacks its line feed, and one
that ends with the third line lacks nothing. -/
theorem print_threeLines :
    let used := ((Printer.new Printer.threeLinesOptions).print Printer.threeLines).2
    AgreesWithWhole used Printer.threeLines ⟨1, 3⟩ ∧
      print used Printer.threeLines (.range ⟨1, 2⟩) ++ ['\n'] =
        ended Printer.threeLinesOptions Printer.threeLines [1, 2] := by
  intro used
  have hused : used.IsUsed Printer.threeLinesOptions := .print .new Printer.threeLines
  constructor
  · obtain ⟨-, -, hagrees, hbare⟩ := print_ended hused Printer.threeLines ⟨1, 3⟩
    refine hagrees.2 ⟨?_, fun h => Bool.noConfusion h.1⟩
    rw [lastIsBare_of_getLast? (n := 3) rfl, hbare rfl Printer.threeLinesOptions_hasNoTransform]
    exact fun h => List.cons_ne_nil _ _ h.1
  · obtain ⟨hrange, -, -, hbare⟩ := print_ended hused Printer.threeLines ⟨1, 2⟩
    have hlast : LastIsBare Printer.threeLinesOptions Printer.threeLines
        (linesWithin Printer.threeLines 1 2) := by
      rw [lastIsBare_of_getLast? (n := 2) rfl, hbare rfl Printer.threeLinesOptions_hasNoTransform]
      exact ⟨rfl, Or.inl rfl⟩
    rw [if_pos hlast] at hrange
    exact hrange

def blankLines : Source := .ofText ['\n', '\n'] none

/-- A whole listing has both of two blank lines, and the range of the first one is listed as
nothing. -/
theorem not_agreesWithWhole_blankLines :
    let p := Printer.new { styles := ⟨0, .plain, []⟩ }
    print p blankLines .whole = ['\n', '\n'] ∧ print p blankLines (.range ⟨1, 1⟩) = [] ∧
      ¬ AgreesWithWhole p blankLines ⟨1, 1⟩ := by
  intro p
  have hrange : print p blankLines (.range ⟨1, 1⟩) = [] := by decide +kernel
  refine ⟨by decide +kernel, hrange, fun hagrees => ?_⟩
  have hended := hagrees.2.symm.trans hrange
  revert hended
  decide +kernel

end Selection

end YamlListing

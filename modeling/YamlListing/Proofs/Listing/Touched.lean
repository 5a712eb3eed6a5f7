import YamlListing.Proofs.Listing.Memory
import YamlListing.Proofs.Span.Merge

set_option autoImplicit false

/-! # The lines of some spans

The lines that spans touch are printed in order, each once and with its own number, and a separator
line stands wherever lines are left out between two of them (`printSpans_lists`). A line is missing
that only spans touch which sit at its start, if the line before it is printed: merging spans has
lost it (`not_listsTouched`). All this is about spans that can be merged without asking for the line
after the greatest one. -/

namespace YamlListing.Printer

variable {o : ListingOptions} {p : Printer}

/-! ## Lines with gaps -/

/-- Lines one after the other, with a separator line between two that are no neighbours. -/
def listed (o : ListingOptions) (source : Source) : List Nat → Text
  | [] => []
  | [n] => lineText o source n
  | n :: m :: rest =>
    lineText o source n ++ (if m = n + 1 then ['\n'] else '\n' :: o.separator ++ ['\n']) ++
      listed o source (m :: rest)

theorem listed_cons_cons (o : ListingOptions) (source : Source) (n m : Nat) (rest : List Nat) :
    listed o source (n :: m :: rest) = lineText o source n ++
      (if m = n + 1 then ['\n'] else '\n' :: o.separator ++ ['\n']) ++
        listed o source (m :: rest) := rfl

/-- Between lines that are neighbours there are no separators. -/
theorem listed_of_isChain (source : Source) {numbers : List Nat}
    (h : numbers.IsChain fun n m => m = n + 1) :
    listed o source numbers = Text.joinLines (numbers.map (lineText o source)) := by
  induction numbers with
  | nil => rfl
  | cons n numbers ih =>
    cases numbers with
    | nil => rfl
    | cons m numbers =>
      obtain ⟨hnext, hrest⟩ := List.isChain_cons_cons.1 h
      rw [listed_cons_cons, if_pos hnext, ih hrest]
      rfl

/-- Between lines that are no neighbours there is a separator. -/
theorem listed_append (source : Source) {numbers numbers' : List Nat} (hne : numbers ≠ [])
    (hne' : numbers' ≠ []) (hgap : ∀ n ∈ numbers, ∀ m ∈ numbers', n + 1 < m) :
    listed o source (numbers ++ numbers') =
      listed o source numbers ++ ('\n' :: o.separator ++ ['\n']) ++ listed o source numbers' := by
  induction numbers with
  | nil => exact absurd rfl hne
  | cons n numbers ih =>
    obtain ⟨hfirst, hgap⟩ := List.forall_mem_cons.1 hgap
    cases numbers with
    | nil =>
      cases numbers' with
      | nil => exact absurd rfl hne'
      | cons m numbers' =>
        have hlt := hfirst m List.mem_cons_self
        rw [List.singleton_append, listed_cons_cons, if_neg (by omega)]
        rfl
    | cons m numbers =>
      have hrest := ih (List.cons_ne_nil _ _) hgap
      rw [List.cons_append, List.cons_append, listed_cons_cons, ← List.cons_append, hrest,
        listed_cons_cons]
      simp only [List.append_assoc]

/-- Groups of neighbours with gaps between them are their lines, one after the other. -/
theorem joinWith_groups (source : Source) {groups : List (List Nat)} (hne : ∀ g ∈ groups, g ≠ [])
    (hchain : ∀ g ∈ groups, g.IsChain fun n m => m = n + 1)
    (hgap : groups.Pairwise fun g g' => ∀ n ∈ g, ∀ m ∈ g', n + 1 < m) :
    Text.joinWith ('\n' :: o.separator ++ ['\n'])
      (groups.map fun g => Text.joinLines (g.map (lineText o source))) =
        listed o source groups.flatten := by
  induction groups with
  | nil => rfl
  | cons g groups ih =>
    obtain ⟨hg, hrest⟩ := List.forall_mem_cons.1 hne
    obtain ⟨hneighbours, hchain⟩ := List.forall_mem_cons.1 hchain
    obtain ⟨hfirst, hgap⟩ := List.pairwise_cons.1 hgap
    cases groups with
    | nil => rw [List.flatten_singleton, listed_of_isChain source hneighbours]; rfl
    | cons next groups =>
      have hlater : (next :: groups).flatten ≠ [] := by
        intro hnil
        exact hrest next List.mem_cons_self (List.flatten_eq_nil_iff.1 hnil next List.mem_cons_self)
      have hbetween : ∀ n ∈ g, ∀ m ∈ (next :: groups).flatten, n + 1 < m := by
        intro n hn m hm
        obtain ⟨g', hg', hm⟩ := List.mem_flatten.1 hm
        exact hfirst g' hg' n hn m hm
      rw [List.flatten_cons, listed_append source hg hlater hbetween, ← ih hrest hchain hgap,
        listed_of_isChain source hneighbours]
      rfl

/-! ## The groups of merged spans -/

section linesTouched

variable (source : Source) {spans : List Span}

theorem mem_linesWithin {n first last : Nat} :
    n ∈ linesWithin source first last ↔ first ≤ n ∧ n ≤ last ∧ 1 ≤ n ∧ n ≤ source.lineCount := by
  rw [linesWithin, Source.numbers, List.mem_range'_1]
  omega

theorem mem_allLines {n : Nat} : n ∈ allLines source ↔ 1 ≤ n ∧ n ≤ source.lineCount := by
  rw [allLines, Source.numbers, List.mem_range'_1]
  omega

theorem mem_linesTouched {g : List Nat} : g ∈ linesTouched source spans ↔
    (∃ s ∈ Span.mergeByLines spans, linesWithin source s.firstLine s.lastLine = g) ∧ g ≠ [] := by
  rw [linesTouched, List.mem_filter, List.mem_map, Bool.not_eq_true', ← Bool.not_eq_true,
    List.isEmpty_iff]

variable (hvalid : ∀ s ∈ spans, s.start ≤ s.stop)
  (hmax : ∀ s ∈ spans, s.firstLine ≤ Span.maxLine) (hout : ¬ Span.RunsOut spans)
include hvalid hmax hout

theorem linesTouched_pairwise :
    (linesTouched source spans).Pairwise fun g g' => ∀ n ∈ g, ∀ m ∈ g', n + 1 < m := by
  refine List.Pairwise.filter _ ((Span.mergeByLines_pairwise hvalid hmax hout).map _ ?_)
  intro s t hapart n hn m hm
  obtain ⟨-, hlast, -⟩ := (mem_linesWithin source).1 hn
  obtain ⟨hfirst, -⟩ := (mem_linesWithin source).1 hm
  rw [Span.IsApart] at hapart
  omega

/-- The groups have the lines that stay when the spans are merged. -/
theorem flatten_linesTouched :
    (linesTouched source spans).flatten = (allLines source).filter (Span.keepsLine spans) := by
  refine List.Pairwise.eq_of_mem_iff (r := (· < ·)) ?_ ?_ ?_
  · refine List.pairwise_flatten.2 ⟨?_, (linesTouched_pairwise source hvalid hmax hout).imp ?_⟩
    · intro g hg
      obtain ⟨⟨s, -, rfl⟩, -⟩ := (mem_linesTouched source).1 hg
      exact List.pairwise_lt_range' 1
    · intro g g' hgap n hn m hm
      have hlt := hgap n hn m hm
      omega
  · exact (List.pairwise_lt_range' 1).filter _
  · intro n
    rw [List.mem_flatten, List.mem_filter, mem_allLines,
      ← Span.any_touches_mergeByLines hvalid hmax hout, List.any_eq_true]
    constructor
    · rintro ⟨g, hg, hn⟩
      obtain ⟨⟨s, hs, rfl⟩, -⟩ := (mem_linesTouched source).1 hg
      obtain ⟨hfirst, hlast, hexists⟩ := (mem_linesWithin source).1 hn
      exact ⟨hexists, s, hs, Span.touches_iff.2 ⟨hfirst, hlast⟩⟩
    · rintro ⟨hexists, s, hs, htouches⟩
      obtain ⟨hfirst, hlast⟩ := Span.touches_iff.1 htouches
      have hn := (mem_linesWithin source).2 ⟨hfirst, hlast, hexists⟩
      exact ⟨_, (mem_linesTouched source).2 ⟨⟨s, hs, rfl⟩, List.ne_nil_of_mem hn⟩, hn⟩

theorem printSpans_eq (h : p.IsReady o) : (p.printSpans source spans).1 =
    listed o source ((allLines source).filter (Span.keepsLine spans)) := by
  rw [printSpans, groups_eq h, ← flatten_linesTouched source hvalid hmax hout]
  refine joinWith_groups source ?_ ?_ (linesTouched_pairwise source hvalid hmax hout)
  · exact fun g hg => ((mem_linesTouched source).1 hg).2
  · intro g hg
    obtain ⟨⟨s, -, rfl⟩, -⟩ := (mem_linesTouched source).1 hg
    exact List.isChain_range' _ _ 1

end linesTouched

/-! ## What is printed of spans -/

/-- Whether the lines of a source that spans touch are printed, and no others. -/
def ListsTouched (p : Printer) (source : Source) (spans : List Span) : Prop :=
  (p.printSpans source spans).1 =
    listed p.options source ((allLines source).filter fun n => spans.any (·.touches n))

/-- Of all lines of a source, in order, those are printed that stay when the spans are merged, with
a separator line where some are left out. They are the lines that the spans touch if no span merely
sits at the start of a line. -/
theorem printSpans_lists (h : p.IsReady o) (source : Source) (spans : List Span)
    (hvalid : ∀ s ∈ spans, s.start ≤ s.stop) (hmax : ∀ s ∈ spans, s.firstLine ≤ Span.maxLine)
    (hout : ¬ Span.RunsOut spans) :
    (p.printSpans source spans).1 =
        listed o source ((allLines source).filter (Span.keepsLine spans)) ∧
      ((∀ s ∈ spans, s.isAtLineStart = false) → p.ListsTouched source spans) := by
  have heq := printSpans_eq source hvalid hmax hout h
  refine ⟨heq, fun hstart => ?_⟩
  have hkeeps : Span.keepsLine spans = fun n => spans.any (·.touches n) :=
    funext (Span.keepsLine_eq_any hstart)
  rw [ListsTouched, h.options, heq, hkeeps]

/-- Two spans touch the first line, where one of them stops at the start of the second one, and one
touches the third line. -/
theorem printSpans_threeLines :
    let o := { threeLinesOptions with gutter := some .lineNumbers, separator := ['⋯'] }
    let used := ((new o).print threeLines).2
    let spans : List Span := [⟨⟨3, 1⟩, ⟨3, 2⟩⟩, ⟨⟨1, 1⟩, ⟨2, 1⟩⟩, ⟨⟨1, 2⟩, ⟨1, 3⟩⟩]
    ¬ Span.RunsOut spans ∧ used.ListsTouched threeLines spans ∧
      (used.printSpans threeLines spans).1 =
        lineText o threeLines 1 ++ ['\n', '⋯', '\n'] ++ lineText o threeLines 3 := by
  intro o used spans
  have hout : ¬ Span.RunsOut spans := Span.not_runsOut_of_lastLine_lt (by decide)
  obtain ⟨heq, hlists⟩ := printSpans_lists (IsUsed.print .new threeLines).isReady threeLines spans
    (by decide) (by decide) hout
  have hnumbers : (allLines threeLines).filter (Span.keepsLine spans) = [1, 3] := by decide
  refine ⟨hout, hlists (by decide), ?_⟩
  rw [heq, hnumbers]
  rfl

/-! ### A line that is lost -/

def twoLines : Source := .ofLines [['a'], ['b']] none

/-- All of the first line, and the start of the second one. -/
def lineAndStart : List Span := [⟨⟨1, 1⟩, ⟨2, 1⟩⟩, ⟨⟨2, 1⟩, ⟨2, 1⟩⟩]

/-- The span at the start of the second line touches it. The first line is printed, and the second
one is not. -/
theorem not_listsTouched : (∀ s ∈ lineAndStart, s.IsValid) ∧
    lineAndStart.any (·.touches 2) = true ∧
    ¬ (new { styles := ⟨0, Style.plain, []⟩ }).ListsTouched twoLines lineAndStart := by
  refine ⟨?_, by decide, ?_⟩
  · intro s hs
    simp only [lineAndStart, List.mem_cons, List.not_mem_nil, or_false] at hs
    rcases hs with rfl | rfl <;> exact ⟨by decide, by decide, by decide⟩
  · have hout : ¬ Span.RunsOut lineAndStart := Span.not_runsOut_of_lastLine_lt (by decide)
    have hkept : (allLines twoLines).filter (Span.keepsLine lineAndStart) = [1] := by decide
    have htouched :
        (allLines twoLines).filter (fun n => lineAndStart.any (·.touches n)) = [1, 2] := by decide
    rw [ListsTouched, printSpans_eq twoLines (by decide) (by decide) hout (new_isReady _), hkept,
      htouched, listed_cons_cons, if_pos rfl, (new_isReady _).options]
    -- The text of the first line alone is shorter than any with a line feed after it.
    intro heq
    have hlength := congrArg List.length heq
    simp only [listed, List.length_append, List.length_singleton] at hlength
    omega

end YamlListing.Printer

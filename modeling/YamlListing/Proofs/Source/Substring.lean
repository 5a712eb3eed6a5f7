import YamlListing.Proofs.Text.Stretch
import YamlListing.Source.Basic

set_option autoImplicit false

/-! # The text that a span covers

Positions and spans count lines and columns; the text of a source is a list of characters. Main
statement: between the positions after `before` and after `before ++ raw`, the lines of a source
hold `raw`, without a line feed at its end (`substring_spanOf`). -/

namespace YamlListing

open Text (positionAfter spanOf splitLines joinLines terminated)

namespace Source

/-! ## Lines -/

/-- No line of a source holds a line feed. -/
def HasLines (s : Source) : Prop := ∀ line ∈ s.lines, '\n' ∉ line

theorem atLine_append {α : Type} (front : List α) (a : α) (back : List α) :
    atLine (front ++ a :: back) (front.length + 1) = some a := by
  rw [atLine, if_neg (Nat.succ_ne_zero _), Nat.add_sub_cancel,
    List.getElem?_append_right (Nat.le_refl _), Nat.sub_self, List.getElem?_cons_zero]

theorem filterMap_numbers {β : Type} (f : Nat → Text → β) (front lines back : List Text) :
    (List.range' (front.length + 1) lines.length).filterMap
        (fun n => (atLine (front ++ lines ++ back) n).map (f n)) =
      lines.mapIdx fun i line => f (front.length + 1 + i) line := by
  induction lines generalizing front with
  | nil => rfl
  | cons line lines ih =>
      have hfirst : atLine (front ++ line :: lines ++ back) (front.length + 1) = some line := by
        rw [List.append_assoc, List.cons_append]
        exact atLine_append front line (lines ++ back)
      have hrest := ih (front ++ [line])
      rw [List.length_append, List.length_singleton, List.append_assoc front, List.singleton_append]
        at hrest
      rw [List.length_cons, List.range'_succ, List.filterMap_cons, hfirst, Option.map_some,
        hrest, List.mapIdx_cons]
      simp only [Nat.add_zero, Nat.add_assoc, Nat.add_comm 1]

/-- The text that a span covers, line by line. -/
theorem substring_eq {s : Source} {span : Span} {front lines back : List Text}
    (hlines : s.lines = front ++ lines ++ back) (hfirst : span.firstLine = front.length + 1)
    (hlast : min span.lastLine s.lineCount = front.length + lines.length) :
    s.substring span =
      joinLines (lines.mapIdx fun i line => covered span (front.length + 1 + i) line) := by
  have hcount : front.length + lines.length + 1 - (front.length + 1) = lines.length := by omega
  rw [substring, numbers, hfirst, hlast, Nat.max_eq_right (by omega), hcount]
  simp only [line?, hlines]
  rw [filterMap_numbers]

/-! ## Single lines -/

section covered

variable {span : Span} {n : Nat}

theorem covered_of_touched (h : span.IsValid) (hfirst : span.firstLine ≤ n)
    (hlast : n ≤ span.lastLine) (text : Text) :
    covered span n text =
      (text.take (if n < span.stop.line then text.length else span.stop.column - 1)).drop
        (if n = span.start.line then span.start.column - 1 else 0) := by
  have hskip : (span.clipStart n).column - 1 =
      if n = span.start.line then span.start.column - 1 else 0 := by
    rw [Span.clipStart]
    split <;> rfl
  obtain ⟨-, hless⟩ := span.clipStop_line_le n (Nat.le_trans hlast span.lastLine_le)
  simp only [covered, Span.clipToTextLine_of_touched h hfirst hlast, hskip, hless]
  split
  · rw [List.take_length]
  · next hn => rw [List.drop_take, Span.clipStop, if_neg hn]

/-- On its only line a span covers what lies between its columns. -/
theorem covered_only (h : span.IsValid) (hfirst : span.start.line = n) (hlast : span.stop.line = n)
    {x y w : Text} (hstart : span.start.column = x.length + 1)
    (hstop : span.stop.column = x.length + y.length + 1) : covered span n (x ++ y ++ w) = y := by
  have hlastLine : span.lastLine = n := by
    rw [Span.lastLine, if_neg (by omega), hlast]
  have hnot : ¬ n < span.stop.line := by omega
  rw [covered_of_touched h (by rw [Span.firstLine]; omega) (by omega), if_neg hnot,
    if_pos hfirst.symm, hstart, hstop, Nat.add_sub_cancel, Nat.add_sub_cancel,
    ← List.length_append, List.take_left, List.drop_left]

/-- On the first of several lines a span covers the end of the line. -/
theorem covered_first (h : span.IsValid) (hfirst : span.start.line = n) (hlast : n < span.stop.line)
    {x y : Text} (hstart : span.start.column = x.length + 1) : covered span n (x ++ y) = y := by
  have hlastLine : n ≤ span.lastLine := by
    rw [Span.lastLine]
    split <;> omega
  rw [covered_of_touched h (by rw [Span.firstLine]; omega) hlastLine, if_pos hlast,
    if_pos hfirst.symm, hstart, List.take_length, Nat.add_sub_cancel, List.drop_left]

/-- Between its first line and its last a span covers whole lines. -/
theorem covered_middle (h : span.IsValid) (hfirst : span.start.line < n)
    (hlast : n < span.stop.line) (text : Text) : covered span n text = text := by
  have hlastLine : n ≤ span.lastLine := by
    rw [Span.lastLine]
    split <;> omega
  rw [covered_of_touched h (by rw [Span.firstLine]; omega) hlastLine, if_pos hlast,
    if_neg (by omega), List.take_length, List.drop_zero]

/-- On the last of several lines a span covers the start of the line. -/
theorem covered_last (h : span.IsValid) (hfirst : span.start.line < n) (hlast : span.stop.line = n)
    {z w : Text} (hz : z ≠ []) (hstop : span.stop.column = z.length + 1) :
    covered span n (z ++ w) = z := by
  have hpos := List.length_pos_iff.2 hz
  have hlastLine : span.lastLine = n := by
    rw [Span.lastLine_of_one_lt (by omega), hlast]
  have hstopLine : ¬ n < span.stop.line := by omega
  have hstartLine : ¬ n = span.start.line := by omega
  rw [covered_of_touched h (by rw [Span.firstLine]; omega) (by omega), if_neg hstopLine,
    if_neg hstartLine, hstop, Nat.add_sub_cancel, List.take_left, List.drop_zero]

end covered

/-! ## Several lines -/

section across

variable {s : Source} {span : Span} {front back mid : List Text} {x y z w : Text}

/-- A span that ends on the line where it starts covers what lies between. -/
theorem substring_within (h : span.IsValid) (hlines : s.lines = front ++ (x ++ y ++ w) :: back)
    (hstart : span.start = ⟨front.length + 1, x.length + 1⟩)
    (hstop : span.stop = ⟨front.length + 1, x.length + y.length + 1⟩) : s.substring span = y := by
  have hlast : span.lastLine = front.length + 1 := by
    rw [Span.lastLine, hstart, hstop, if_neg (by simp)]
  have hsplit : s.lines = front ++ [x ++ y ++ w] ++ back := by
    rw [hlines, List.append_cons]
  have hcount : front.length + 1 ≤ s.lineCount := by
    rw [lineCount, hlines, List.length_append, List.length_cons]
    omega
  rw [substring_eq hsplit (by rw [Span.firstLine, hstart])
    (by rw [hlast, List.length_singleton]; omega), List.mapIdx_singleton, Nat.add_zero,
    covered_only h (by rw [hstart]) (by rw [hstop]) (by rw [hstart]) (by rw [hstop])]
  rfl

/-- On all lines but the last a span covers the lines from where it starts. -/
theorem mapIdx_covered (h : span.IsValid) (hstart : span.start = ⟨front.length + 1, x.length + 1⟩)
    (hstop : front.length + 1 + mid.length < span.stop.line) :
    ((x ++ y) :: mid).mapIdx (fun i line => covered span (front.length + 1 + i) line) =
      y :: mid := by
  rw [List.mapIdx_cons, covered_first h (by rw [hstart]) (by omega) (by rw [hstart])]
  congr 1
  refine List.ext_getElem (by simp) ?_
  intro i hi _
  rw [List.length_mapIdx] at hi
  rw [List.getElem_mapIdx, covered_middle h (by rw [hstart]; simp only; omega) (by omega)]

/-- A span that stops at the start of a line covers the lines before it, without the last line
    feed. -/
theorem substring_upTo (h : span.IsValid) (hlines : s.lines = front ++ (x ++ y) :: mid ++ back)
    (hstart : span.start = ⟨front.length + 1, x.length + 1⟩)
    (hstop : span.stop = ⟨front.length + mid.length + 2, 1⟩) :
    s.substring span = joinLines (y :: mid) := by
  have hlast : span.lastLine = front.length + mid.length + 1 := by
    rw [Span.lastLine, hstart, hstop, if_pos ⟨Nat.le_refl 1, by simp only; omega⟩]
    rfl
  have hcount : front.length + mid.length + 1 ≤ s.lineCount := by
    rw [lineCount, hlines, List.length_append, List.length_append, List.length_cons]
    omega
  have hstopLine : front.length + 1 + mid.length < span.stop.line := by
    rw [hstop]
    simp only
    omega
  rw [substring_eq hlines (by rw [Span.firstLine, hstart])
    (by rw [hlast, List.length_cons]; omega), mapIdx_covered h hstart hstopLine]

/-- A span over several lines covers the end of its first, all between and the start of its last. -/
theorem substring_across (h : span.IsValid)
    (hlines : s.lines = front ++ (x ++ y) :: mid ++ (z ++ w) :: back) (hz : z ≠ [])
    (hstart : span.start = ⟨front.length + 1, x.length + 1⟩)
    (hstop : span.stop = ⟨front.length + mid.length + 2, z.length + 1⟩) :
    s.substring span = joinLines (y :: mid ++ [z]) := by
  have hpos := List.length_pos_iff.2 hz
  have hlast : span.lastLine = front.length + mid.length + 2 := by
    rw [Span.lastLine_of_one_lt (by rw [hstop]; simp only; omega), hstop]
  have hsplit : s.lines = front ++ ((x ++ y) :: mid ++ [z ++ w]) ++ back := by
    rw [hlines]
    simp only [List.append_assoc, List.singleton_append]
  have hcount : front.length + mid.length + 2 ≤ s.lineCount := by
    rw [lineCount, hlines, List.length_append, List.length_append, List.length_cons,
      List.length_cons]
    omega
  have hstopLine : span.stop.line = front.length + 1 + ((x ++ y) :: mid).length := by
    rw [hstop, List.length_cons]
    simp only
    omega
  rw [substring_eq hsplit (by rw [Span.firstLine, hstart])
    (by rw [hlast, List.length_append, List.length_cons, List.length_singleton]; omega),
    List.mapIdx_concat, mapIdx_covered h hstart (by rw [hstopLine, List.length_cons]; omega),
    covered_last h (by rw [hstart, List.length_cons]; simp only; omega) hstopLine hz
      (by rw [hstop])]

/-! The lines with an empty one after them: a span may begin or stop at the start of the line after
the last. -/

theorem substring_onLine {ws : List Text} (h : span.IsValid)
    (hlines : s.lines ++ [[]] = front ++ (x ++ (y ++ w)) :: ws)
    (hstart : span.start = ⟨front.length + 1, x.length + 1⟩)
    (hstop : span.stop = ⟨front.length + 1, x.length + y.length + 1⟩) : s.substring span = y := by
  rcases List.eq_nil_or_concat ws with rfl | ⟨back, v, rfl⟩
  · -- There is nothing after the last line.
    obtain ⟨rfl, hempty⟩ := List.append_inj' hlines rfl
    obtain ⟨-, hempty⟩ := List.append_eq_nil_iff.1 (List.cons.inj hempty).1.symm
    obtain ⟨rfl, -⟩ := List.append_eq_nil_iff.1 hempty
    have hlast : span.lastLine = s.lines.length + 1 := by
      rw [Span.lastLine, hstart, hstop, if_neg (by simp)]
    have hsplit : s.lines = s.lines ++ [] ++ [] := by rw [List.append_nil, List.append_nil]
    rw [substring_eq hsplit (by rw [Span.firstLine, hstart])
      (by rw [hlast, lineCount, List.length_nil]; omega)]
    rfl
  · rw [List.concat_eq_append, ← List.cons_append, ← List.append_assoc, ← List.append_assoc x]
      at hlines
    exact substring_within h (List.append_inj' hlines rfl).1 hstart hstop

theorem substring_onLines {ws : List Text} (h : span.IsValid)
    (hlines : s.lines ++ [[]] = front ++ (x ++ y) :: mid ++ (z ++ w) :: ws)
    (hstart : span.start = ⟨front.length + 1, x.length + 1⟩)
    (hstop : span.stop = ⟨front.length + mid.length + 2, z.length + 1⟩) :
    s.substring span = if z = [] then joinLines (y :: mid) else joinLines (y :: mid ++ [z]) := by
  split
  · next hz =>
    subst hz
    obtain ⟨back, v, hback⟩ :=
      (List.eq_nil_or_concat (([] ++ w) :: ws)).resolve_left (List.cons_ne_nil _ _)
    rw [hback, List.concat_eq_append, ← List.append_assoc] at hlines
    exact substring_upTo h (List.append_inj' hlines rfl).1 hstart hstop
  · next hz =>
    rcases List.eq_nil_or_concat ws with rfl | ⟨back, v, rfl⟩
    · have hempty := (List.append_inj' hlines rfl).2
      exact absurd (List.append_eq_nil_iff.1 (List.cons.inj hempty).1.symm).1 hz
    · rw [List.concat_eq_append, ← List.cons_append, ← List.append_assoc] at hlines
      exact substring_across h (List.append_inj' hlines rfl).1 hz hstart hstop

end across

/-! ## Stretches of the text -/

section spanOf

variable {s : Source} {before raw after x y z w : Text} {front mid ws : List Text}

theorem spanOf_start (h : splitLines before = front ++ [x]) :
    (spanOf before raw).start = ⟨front.length + 1, x.length + 1⟩ :=
  Text.positionAfter_of_splitLines h

/-- A stretch of text that lies on one line. -/
theorem substring_spanOf_line (hlines : s.lines ++ [[]] = front ++ (x ++ (raw ++ w)) :: ws)
    (hbefore : splitLines before = front ++ [x]) (hraw : '\n' ∉ raw) :
    s.substring (spanOf before raw) = raw := by
  have hstop : (spanOf before raw).stop = ⟨front.length + 1, x.length + raw.length + 1⟩ := by
    rw [spanOf, Text.positionAfter_append hraw, Text.positionAfter_of_splitLines hbefore]
    simp only [Position.mk.injEq, true_and]
    omega
  exact substring_onLine (Text.spanOf_isValid before raw) hlines (spanOf_start hbefore) hstop

/-- A stretch of text that goes over several lines. -/
theorem substring_spanOf_lines
    (hlines : s.lines ++ [[]] = front ++ (x ++ y) :: mid ++ (z ++ w) :: ws)
    (hbefore : splitLines before = front ++ [x]) (hraw : splitLines raw = y :: mid ++ [z]) :
    s.substring (spanOf before raw) = (Text.dropLast? '\n' raw).getD raw := by
  have hstop : (spanOf before raw).stop = ⟨front.length + mid.length + 2, z.length + 1⟩ := by
    have happend : splitLines (before ++ raw) = front ++ (x ++ y) :: mid ++ [z] := by
      rw [Text.splitLines_append hbefore hraw, List.append_assoc]
      rfl
    rw [spanOf, Text.positionAfter_of_splitLines happend, List.length_append, List.length_cons]
    rfl
  have hjoin : raw = joinLines (y :: mid) ++ '\n' :: z := by
    rw [← Text.joinLines_splitLines raw, hraw, Text.joinLines_concat]
  rw [substring_onLines (Text.spanOf_isValid before raw) hlines (spanOf_start hbefore) hstop]
  -- A stretch that ends with a line feed stops at column 1 and does not touch that line.
  split
  · next hz => rw [hjoin, hz, Text.dropLast?_concat, Option.getD_some]
  · next hz =>
    have hnew : '\n' ∉ z := by
      refine Text.newline_not_mem_of_mem_splitLines (t := raw) ?_
      rw [hraw]
      exact List.mem_append_right _ (List.mem_singleton_self z)
    have hlast : raw.getLast? ≠ some '\n' := by
      intro he
      rw [hjoin, List.getLast?_append, List.getLast?_cons_of_ne_nil hz] at he
      rw [List.getLast?_eq_some_getLast hz, Option.some_or] at he
      exact hnew (Option.some.inj he ▸ List.getLast_mem hz)
    rw [Text.dropLast?_eq_none hlast, Option.getD_none, ← hraw, Text.joinLines_splitLines]

/-- The lines of a source hold a stretch of its text between the positions where it begins and ends;
    a line feed at its end is not part of a line. -/
theorem substring_spanOf (hs : s.HasLines) (h : terminated s.lines = before ++ raw ++ after) :
    s.substring (spanOf before raw) = (Text.dropLast? '\n' raw).getD raw := by
  obtain ⟨front, x, hbefore⟩ := Text.exists_splitLines_concat before
  obtain ⟨y, ys, hraw⟩ := Text.exists_splitLines_cons raw
  obtain ⟨w, ws, hafter⟩ := Text.exists_splitLines_cons after
  have hlines : s.lines ++ [[]] = splitLines (before ++ (raw ++ after)) := by
    rw [← Text.splitLines_terminated hs, h, List.append_assoc]
  rcases List.eq_nil_or_concat ys with rfl | ⟨mid, z, rfl⟩
  · have hjoin := Text.joinLines_splitLines raw
    rw [hraw] at hjoin
    obtain rfl : y = raw := hjoin
    have hnew : '\n' ∉ y :=
      Text.newline_not_mem_of_mem_splitLines (hraw ▸ List.mem_cons_self ..)
    have hrest : splitLines (y ++ after) = (y ++ w) :: ws :=
      Text.splitLines_append (List.nil_append [y] ▸ hraw) hafter
    rw [Text.splitLines_append hbefore hrest] at hlines
    rw [Text.dropLast?_eq_none (fun he => hnew (List.mem_of_getLast? he)), Option.getD_none]
    exact substring_spanOf_line hlines hbefore hnew
  · rw [List.concat_eq_append, ← List.cons_append] at hraw
    have hrest : splitLines (raw ++ after) = y :: (mid ++ (z ++ w) :: ws) :=
      Text.splitLines_append hraw hafter
    rw [Text.splitLines_append hbefore hrest, ← List.cons_append, ← List.append_assoc] at hlines
    exact substring_spanOf_lines hlines hbefore hraw

end spanOf

end Source

end YamlListing

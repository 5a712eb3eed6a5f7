import YamlListing.Proofs.Source.Clash
import YamlListing.Proofs.Source.Substring

set_option autoImplicit false

/-! # The text between two positions

A substring is put together line by line. Read as one text, with a line feed after every line, a
source has each of its positions at some distance from the start, and the substring of a span is
what lies between its ends. Main statement: it is, without the line feed at its end if the span
stops at the start of a later line (`substring_append_eq_between`). -/

namespace YamlListing.Source

open Text (joinLines terminated)

/-- Whether a span of a source can begin or stop at a position: on a line, anywhere up to its end, or
at the start of the line after the last. -/
def HasEndpoint (s : Source) (p : Position) : Prop :=
  s.HasPosition p ∨ p = .lineStart (s.lineCount + 1)

/-- The number of characters before a position, if a line feed follows every line. -/
def distance (s : Source) (p : Position) : Nat :=
  (terminated (s.lines.take (p.line - 1))).length + (p.column - 1)

/-- The text between two positions, if a line feed follows every line. -/
def between (s : Source) (p q : Position) : Text :=
  ((terminated s.lines).take (s.distance q)).drop (s.distance p)

variable {s : Source} {span : Span} {p q : Position} {front mid back ws : List Text}
  {x y z w line : Text}

/-! ## Positions and distances -/

/-- A position cuts the line that it is on. -/
theorem HasEndpoint.exists_split (h : s.HasEndpoint p) :
    ∃ front x y back, s.lines ++ [[]] = front ++ (x ++ y) :: back ∧
      p = ⟨front.length + 1, x.length + 1⟩ := by
  obtain ⟨n, column⟩ := p
  rcases h with ⟨line, hline, hlow, hhigh⟩ | hlast
  · simp only at hline hlow hhigh
    rw [line?, atLine] at hline
    split at hline
    · cases hline
    · next hn =>
      obtain ⟨hlength, hget⟩ := List.getElem?_eq_some_iff.1 hline
      have hsplit : s.lines = s.lines.take (n - 1) ++ line :: s.lines.drop (n - 1 + 1) := by
        rw [← hget, List.getElem_cons_drop, List.take_append_drop]
      refine ⟨s.lines.take (n - 1), line.take (column - 1), line.drop (column - 1),
        s.lines.drop (n - 1 + 1) ++ [[]], ?_, ?_⟩
      · rw [List.take_append_drop, ← List.cons_append, ← List.append_assoc, ← hsplit]
      · rw [List.length_take_of_le (Nat.le_of_lt hlength), List.length_take_of_le (by omega),
          Nat.sub_add_cancel (Nat.pos_of_ne_zero hn), Nat.sub_add_cancel hlow]
  · exact ⟨s.lines, [], [], [], rfl, hlast⟩

/-- What stands before a position. -/
theorem distance_of_split (h : s.lines ++ [[]] = front ++ line :: back) (x : Text) :
    s.distance ⟨front.length + 1, x.length + 1⟩ = (terminated front ++ x).length := by
  have hlength := congrArg List.length h
  simp only [List.length_append, List.length_cons, List.length_nil] at hlength
  have htake : (s.lines ++ [[]]).take front.length = s.lines.take front.length :=
    List.take_append_of_le_length (by omega)
  rw [h, List.take_left] at htake
  rw [distance, Nat.add_sub_cancel, Nat.add_sub_cancel, ← htake, List.length_append]

/-- The text begins with what stands before a position. -/
theorem terminated_isPrefix (h : s.lines ++ [[]] = front ++ (x ++ y) :: back) :
    terminated front ++ x <+: terminated s.lines := by
  rcases List.eq_nil_or_concat back with rfl | ⟨back, v, rfl⟩
  · obtain ⟨hfront, hempty⟩ := List.append_inj' h rfl
    obtain ⟨rfl, -⟩ := List.append_eq_nil_iff.1 (List.cons.inj hempty).1.symm
    exact ⟨[], by rw [hfront, List.append_nil, List.append_nil]⟩
  · rw [List.concat_eq_append, ← List.cons_append, ← List.append_assoc] at h
    rw [(List.append_inj' h rfl).1, Text.terminated_append, Text.terminated_cons, List.append_assoc,
      ← List.append_assoc]
    exact List.prefix_append _ _

/-- What lies between two positions, given the text up to the second. -/
theorem between_eq {before raw : Text} (hp : s.distance p = before.length)
    (hq : s.distance q = (before ++ raw).length) (h : before ++ raw <+: terminated s.lines) :
    s.between p q = raw := by
  obtain ⟨after, hafter⟩ := h
  rw [between, hp, hq, ← hafter, List.take_left, List.drop_left]

/-! ## Substrings -/

/-- Positions in the wrong order have nothing between them. -/
theorem between_of_le (h : s.distance q ≤ s.distance p) : s.between p q = [] := by
  rw [between, List.drop_eq_nil_iff]
  exact Nat.le_trans (List.length_take_le _ _) h

/-- A span that stops before it begins covers nothing. -/
theorem substring_of_reversed (h : span.stop < span.start) : s.substring span = [] := by
  have hlast : span.lastLine = span.stop.line := by
    rw [Position.lt_def] at h
    rw [Span.lastLine, if_neg (by omega)]
  rw [substring, hlast, numbers, Span.firstLine]
  rcases h with hline | ⟨hline, hcolumn⟩
  · rw [Nat.sub_eq_zero_of_le (by omega)]
    rfl
  · -- There is one line at most, and nothing of it.
    have hcovered (text : Text) : covered span span.stop.line text = [] := by
      have hstart : max span.start (.lineStart span.stop.line) = span.start :=
        Position.max_of_ge (Or.inr ⟨hline, by simp only [Position.lineStart]; omega⟩)
      have hstop : min span.stop (.lineStart (span.stop.line + 1)) = span.stop :=
        Position.min_of_le (Or.inl (Nat.lt_succ_self _))
      have hnot : ¬ (span.stop.line < span.firstLine ∨ span.lastLine < span.stop.line) := by
        rw [Span.firstLine, hlast]
        omega
      simp only [covered, Span.clipToTextLine, Span.clipBefore, if_neg hnot, hstart, hstop,
        Nat.lt_irrefl, if_false]
      rw [Nat.sub_eq_zero_of_le (by omega), List.take_zero]
    have hcount : min span.stop.line s.lineCount + 1 - max 1 span.start.line ≤ 1 := by omega
    rcases Nat.le_one_iff_eq_zero_or_eq_one.1 hcount with hzero | hone
    · rw [hzero]
      rfl
    · have hnumber : max 1 span.start.line = span.stop.line := by omega
      rw [hone, List.range'_one, List.filterMap_cons, hnumber]
      cases s.line? span.stop.line with
      | none => rfl
      | some text =>
        rw [Option.map_some, hcovered]
        rfl

/-- On one line. -/
theorem substring_eq_between (h : span.IsValid)
    (hlines : s.lines ++ [[]] = front ++ (x ++ (y ++ w)) :: ws)
    (hstart : span.start = ⟨front.length + 1, x.length + 1⟩)
    (hstop : span.stop = ⟨front.length + 1, (x ++ y).length + 1⟩) :
    s.substring span = s.between span.start span.stop := by
  have hlines' : s.lines ++ [[]] = front ++ (x ++ y ++ w) :: ws := by
    rw [hlines, List.append_assoc]
  have hprefix := terminated_isPrefix hlines'
  have hdistance := distance_of_split hlines (x ++ y)
  rw [← List.append_assoc] at hprefix hdistance
  rw [hstart, hstop, between_eq (distance_of_split hlines x) hdistance hprefix]
  rw [List.length_append] at hstop
  exact substring_onLine h hlines hstart hstop

/-- Over several lines. -/
theorem substring_append_of_lines (h : span.IsValid)
    (hlines : s.lines ++ [[]] = front ++ (x ++ y) :: mid ++ (z ++ w) :: ws)
    (hstart : span.start = ⟨front.length + 1, x.length + 1⟩)
    (hstop : span.stop = ⟨(front ++ (x ++ y) :: mid).length + 1, z.length + 1⟩) :
    s.substring span ++ (if z = [] then ['\n'] else []) = s.between span.start span.stop := by
  have hlines' : s.lines ++ [[]] = front ++ (x ++ y) :: (mid ++ (z ++ w) :: ws) := by
    rw [hlines, List.append_assoc, List.cons_append]
  have htext : terminated (front ++ (x ++ y) :: mid) ++ z =
      terminated front ++ x ++ (terminated (y :: mid) ++ z) := by
    simp only [Text.terminated_append, Text.terminated_cons, List.append_assoc, List.cons_append]
  have hprefix := terminated_isPrefix hlines
  have hdistance := distance_of_split hlines z
  rw [htext] at hprefix hdistance
  rw [hstart, hstop, between_eq (distance_of_split hlines' x) hdistance hprefix]
  rw [List.length_append, List.length_cons, ← Nat.add_assoc] at hstop
  rw [substring_onLines h hlines hstart hstop, Text.terminated_eq_joinLines (List.cons_ne_nil y mid)]
  split
  · next hz => rw [hz, List.append_nil]
  · rw [Text.joinLines_concat, List.append_nil, List.append_assoc]
    rfl

/-- Two cuts of the same lines are cuts of the same line, or the one comes lines after the other. -/
theorem split_cases {front' back' : List Text} {line' : Text}
    (h : front ++ line :: back = front' ++ line' :: back') :
    (front' = front ∧ line' = line ∧ back' = back) ∨
      (∃ mid, front' = front ++ line :: mid ∧ back = mid ++ line' :: back') ∨
      (∃ mid, front = front' ++ line' :: mid) := by
  rcases List.append_eq_append_iff.1 h with ⟨mid, hfront, hback⟩ | ⟨mid, hfront, hback⟩
  · cases mid with
    | nil =>
      obtain ⟨hline, hback⟩ := List.cons.inj hback
      exact Or.inl ⟨by rw [hfront, List.append_nil], hline.symm, hback.symm⟩
    | cons first mid =>
      obtain ⟨rfl, hrest⟩ := List.cons.inj hback
      exact Or.inr (Or.inl ⟨mid, hfront, hrest⟩)
  · cases mid with
    | nil =>
      obtain ⟨hline, hback⟩ := List.cons.inj hback
      exact Or.inl ⟨by rw [hfront, List.append_nil], hline, hback⟩
    | cons first mid =>
      obtain ⟨rfl, -⟩ := List.cons.inj hback
      exact Or.inr (Or.inr ⟨mid, hfront⟩)

/-- The substring of a span between positions of a source is the text between them, without the line
feed at its end if the span stops at the start of a later line. -/
theorem substring_append_eq_between (hstart : s.HasEndpoint span.start)
    (hstop : s.HasEndpoint span.stop) :
    s.substring span ++
        (if span.stop.column = 1 ∧ span.start.line < span.stop.line then ['\n'] else []) =
      s.between span.start span.stop := by
  obtain ⟨front, x, y, back, hlines, hp⟩ := hstart.exists_split
  obtain ⟨front', z, w, back', hlines', hq⟩ := hstop.exists_split
  have hdistance : s.distance span.start = (terminated front ++ x).length :=
    hp ▸ distance_of_split hlines x
  have hdistance' : s.distance span.stop = (terminated front' ++ z).length :=
    hq ▸ distance_of_split hlines' z
  have hvalid (h : span.start ≤ span.stop) : span.IsValid :=
    ⟨h, by rw [hp]; exact Nat.le_add_left .., by rw [hq]; exact Nat.le_add_left ..⟩
  have hreversed (h : span.stop < span.start) (hle : s.distance span.stop ≤ s.distance span.start) :
      s.substring span ++
        (if span.stop.column = 1 ∧ span.start.line < span.stop.line then ['\n'] else []) =
      s.between span.start span.stop := by
    rw [substring_of_reversed h, between_of_le hle, if_neg]
    · rfl
    · rw [Position.lt_def] at h
      omega
  rcases split_cases (hlines.symm.trans hlines') with
    ⟨rfl, hline, rfl⟩ | ⟨mid, rfl, rfl⟩ | ⟨mid, rfl⟩
  · -- Both positions are on one line.
    have hlineEq : span.start.line = span.stop.line := by rw [hp, hq]
    rcases Nat.lt_or_ge z.length x.length with hlt | hle
    · refine hreversed (Or.inr ⟨hlineEq.symm, by rw [hp, hq]; exact Nat.succ_lt_succ hlt⟩) ?_
      rw [hdistance, hdistance', List.length_append, List.length_append]
      omega
    · obtain ⟨raw, rfl⟩ := List.prefix_of_prefix_length_le ⟨y, hline.symm⟩ ⟨w, rfl⟩ hle
      obtain rfl : raw ++ w = y := List.append_cancel_left (by rw [← List.append_assoc, hline])
      have hordered : span.start ≤ span.stop := Or.inr ⟨hlineEq, by rw [hp, hq]; simp⟩
      rw [if_neg (by omega), List.append_nil]
      exact substring_eq_between (hvalid hordered) hlines hp hq
  · have hlt : span.start.line < span.stop.line := by
      rw [hp, hq, List.length_append]
      simp
    have hcolumn : span.stop.column = 1 ↔ z = [] := by
      rw [hq]
      simp
    rw [← substring_append_of_lines (hvalid (Or.inl hlt)) hlines' hp hq]
    simp only [hcolumn, hlt, and_true]
  · refine hreversed (Or.inl (by rw [hp, hq, List.length_append]; simp)) ?_
    rw [hdistance, hdistance', Text.terminated_append, Text.terminated_cons]
    simp only [List.length_append, List.length_cons]
    omega

/-- Three lines, the middle one blank: from inside the first line to inside the last one, to the
start of the last one, and from the end of the first line to the start of the line after the last.
-/
theorem substring_append_eq_between_threeLines :
    let s : Source := ofLines ["ab".toList, [], "cd".toList] none
    s.HasEndpoint ⟨1, 2⟩ ∧ s.HasEndpoint ⟨1, 3⟩ ∧ s.HasEndpoint ⟨3, 1⟩ ∧ s.HasEndpoint ⟨3, 2⟩ ∧
      s.HasEndpoint ⟨4, 1⟩ ∧ s.substring ⟨⟨1, 2⟩, ⟨3, 2⟩⟩ ++ [] = "b\n\nc".toList ∧
      s.substring ⟨⟨1, 2⟩, ⟨3, 1⟩⟩ ++ ['\n'] = "b\n\n".toList ∧
      s.substring ⟨⟨1, 3⟩, ⟨4, 1⟩⟩ ++ ['\n'] = "\n\ncd\n".toList := by
  intro s
  have hfirst : s.HasEndpoint ⟨1, 2⟩ := Or.inl ⟨_, rfl, by decide, by decide⟩
  have hend : s.HasEndpoint ⟨1, 3⟩ := Or.inl ⟨_, rfl, by decide, by decide⟩
  have hlast : s.HasEndpoint ⟨3, 1⟩ := Or.inl ⟨_, rfl, by decide, by decide⟩
  have hinside : s.HasEndpoint ⟨3, 2⟩ := Or.inl ⟨_, rfl, by decide, by decide⟩
  have hafter : s.HasEndpoint ⟨4, 1⟩ := Or.inr rfl
  exact ⟨hfirst, hend, hlast, hinside, hafter,
    @substring_append_eq_between s ⟨⟨1, 2⟩, ⟨3, 2⟩⟩ hfirst hinside,
    @substring_append_eq_between s ⟨⟨1, 2⟩, ⟨3, 1⟩⟩ hfirst hlast,
    @substring_append_eq_between s ⟨⟨1, 3⟩, ⟨4, 1⟩⟩ hend hafter⟩

end YamlListing.Source

import YamlListing.Proofs.Position
import YamlListing.Yaml.Token

set_option autoImplicit false

/-! # Places in a text

The place reached by reading a text from its start: `positionAfter` counts its lines and the columns
of its last one, `Text.byteLength` its bytes. Reading on moves the position as `Token.advance` does
(`advance_positionAfter`), and never backwards. `positionAfter_of_splitLines` ties positions to the
lines that a text is cut into. -/

namespace YamlListing

namespace Text

/-! ## Positions -/

/-- The position after a text: one line further for each line feed, one column further for each
    character after the last of them. -/
def positionAfter (t : Text) : Position :=
  ⟨t.count '\n' + 1, (t.reverse.takeWhile (· != '\n')).length + 1⟩

@[simp] theorem positionAfter_nil : positionAfter [] = .first := rfl

theorem positionAfter_concat (s : Text) (c : Char) :
    positionAfter (s ++ [c]) =
      if c = '\n' then .lineStart ((positionAfter s).line + 1)
      else ⟨(positionAfter s).line, (positionAfter s).column + 1⟩ := by
  by_cases h : c = '\n'
  · simp [positionAfter, h, Position.lineStart]
  · simp [positionAfter, h]

theorem advance_positionAfter (s t : Text) :
    Yaml.Token.advance (positionAfter s) t = positionAfter (s ++ t) := by
  induction t generalizing s with
  | nil => rw [List.append_nil, Yaml.Token.advance]
  | cons c t ih =>
      have h := ih (s ++ [c])
      rw [positionAfter_concat, List.append_assoc, List.singleton_append] at h
      exact h

theorem positionAfter_append {s t : Text} (h : '\n' ∉ t) :
    positionAfter (s ++ t) = ⟨(positionAfter s).line, (positionAfter s).column + t.length⟩ := by
  induction t generalizing s with
  | nil => rw [List.append_nil, List.length_nil, Nat.add_zero]
  | cons c t ih =>
      rw [List.mem_cons, not_or] at h
      have h' := ih h.2 (s := s ++ [c])
      rw [positionAfter_concat, if_neg (fun hc => h.1 hc.symm), List.append_assoc,
        List.singleton_append] at h'
      rw [h', List.length_cons]
      simp only [Position.mk.injEq, true_and]
      omega

theorem one_le_positionAfter_column (t : Text) : 1 ≤ (positionAfter t).column :=
  Nat.le_add_left ..

theorem positionAfter_lt_concat (s : Text) (c : Char) :
    positionAfter s < positionAfter (s ++ [c]) := by
  rw [positionAfter_concat, Position.lt_def]
  split
  · exact Or.inl (Nat.lt_succ_self _)
  · exact Or.inr ⟨rfl, Nat.lt_succ_self _⟩

theorem positionAfter_le_append (s t : Text) : positionAfter s ≤ positionAfter (s ++ t) := by
  induction t generalizing s with
  | nil =>
      rw [List.append_nil]
      exact Position.le_refl _
  | cons c t ih =>
      have h := ih (s ++ [c])
      rw [List.append_assoc, List.singleton_append] at h
      exact Position.le_trans (Position.le_of_lt (positionAfter_lt_concat s c)) h

/-- The position of a character comes before that after any text that goes on with it. -/
theorem positionAfter_lt_append_cons (s : Text) (c : Char) (t : Text) :
    positionAfter s < positionAfter (s ++ c :: t) := by
  have h := positionAfter_le_append (s ++ [c]) t
  rw [List.append_assoc, List.singleton_append] at h
  have hlt := positionAfter_lt_concat s c
  rw [Position.lt_def] at *
  rw [Position.le_def] at h
  omega

theorem positionAfter_lt_append {s t : Text} (h : t ≠ []) :
    positionAfter s < positionAfter (s ++ t) := by
  obtain ⟨c, t, rfl⟩ := List.exists_cons_of_ne_nil h
  exact positionAfter_lt_append_cons s c t

/-! ## Bytes -/

theorem byteLength_pos {t : Text} (h : t ≠ []) : 0 < byteLength t := by
  obtain ⟨c, t, rfl⟩ := List.exists_cons_of_ne_nil h
  rw [byteLength_cons]
  have := c.utf8Size_pos
  omega

/-! ## Lines -/

theorem splitLines_cons_newline (t : Text) : splitLines ('\n' :: t) = [] :: splitLines t := by
  simp [splitLines, splitOn]

theorem splitLines_cons {c : Char} {t y : Text} {ys : List Text} (h : c ≠ '\n')
    (ht : splitLines t = y :: ys) : splitLines (c :: t) = (c :: y) :: ys := by
  rw [splitLines] at ht
  simp [splitLines, splitOn, h, ht]

theorem exists_splitLines_cons (t : Text) : ∃ y ys, splitLines t = y :: ys :=
  List.exists_cons_of_ne_nil (splitOn_ne_nil '\n' t)

theorem exists_splitLines_concat (t : Text) : ∃ xs x, splitLines t = xs ++ [x] := by
  rcases List.eq_nil_or_concat (splitLines t) with h | ⟨xs, x, h⟩
  · exact absurd h (splitOn_ne_nil '\n' t)
  · exact ⟨xs, x, by rw [h, List.concat_eq_append]⟩

/-- No line holds a line feed. -/
theorem newline_not_mem_of_mem_splitLines {t l : Text} (h : l ∈ splitLines t) : '\n' ∉ l := by
  induction t generalizing l with
  | nil =>
      rw [splitLines, splitOn, List.mem_singleton] at h
      simp [h]
  | cons c t ih =>
      by_cases hc : c = '\n'
      · rw [hc, splitLines_cons_newline] at h
        rcases List.mem_cons.1 h with rfl | h
        · simp
        · exact ih h
      · obtain ⟨y, ys, ht⟩ := exists_splitLines_cons t
        rw [splitLines_cons hc ht] at h
        rcases List.mem_cons.1 h with rfl | h
        · rw [List.mem_cons, not_or]
          exact ⟨fun he => hc he.symm, ih (by rw [ht]; exact List.mem_cons_self ..)⟩
        · exact ih (by rw [ht]; exact List.mem_cons_of_mem _ h)

theorem splitLines_of_not_mem {t : Text} (h : '\n' ∉ t) : splitLines t = [t] := by
  induction t with
  | nil => rfl
  | cons c t ih =>
      rw [List.mem_cons, not_or] at h
      exact splitLines_cons (fun he => h.1 he.symm) (ih h.2)

/-- How the last line of a text comes about from what follows its first character. -/
theorem splitLines_cons_eq_concat {c : Char} {s x : Text} {xs : List Text}
    (h : splitLines (c :: s) = xs ++ [x]) :
    (c = '\n' ∧ ∃ zs, xs = [] :: zs ∧ splitLines s = zs ++ [x]) ∨
      (c ≠ '\n' ∧ xs = [] ∧ ∃ z, x = c :: z ∧ splitLines s = [z]) ∨
      (c ≠ '\n' ∧ ∃ w ws, xs = (c :: w) :: ws ∧ splitLines s = w :: ws ++ [x]) := by
  obtain ⟨zs, z, hz⟩ := exists_splitLines_concat s
  by_cases hc : c = '\n'
  · rw [hc, splitLines_cons_newline, hz, ← List.cons_append] at h
    obtain ⟨rfl, hx⟩ := List.append_inj' h rfl
    obtain rfl : z = x := by simpa using hx
    exact Or.inl ⟨hc, zs, rfl, hz⟩
  · cases zs with
    | nil =>
        have h' : [] ++ [c :: z] = xs ++ [x] := (splitLines_cons hc hz).symm.trans h
        obtain ⟨rfl, hx⟩ := List.append_inj' h' rfl
        obtain rfl : c :: z = x := by simpa using hx
        exact Or.inr (Or.inl ⟨hc, rfl, z, rfl, hz⟩)
    | cons w ws =>
        have h' : (c :: w) :: ws ++ [z] = xs ++ [x] := (splitLines_cons hc hz).symm.trans h
        obtain ⟨rfl, hx⟩ := List.append_inj' h' rfl
        obtain rfl : z = x := by simpa using hx
        exact Or.inr (Or.inr ⟨hc, w, ws, rfl, hz⟩)

theorem splitLines_nil_eq_concat {x : Text} {xs : List Text} (h : splitLines [] = xs ++ [x]) :
    xs = [] ∧ x = [] := by
  have h' : [] ++ [[]] = xs ++ [x] := h
  obtain ⟨rfl, hx⟩ := List.append_inj' h' rfl
  exact ⟨rfl, by simpa [eq_comm] using hx⟩

/-- Where two texts meet, the last line of the one and the first of the other become one. -/
theorem splitLines_append {s t x y : Text} {xs ys : List Text} (hs : splitLines s = xs ++ [x])
    (ht : splitLines t = y :: ys) : splitLines (s ++ t) = xs ++ (x ++ y) :: ys := by
  induction s generalizing x xs with
  | nil =>
      obtain ⟨rfl, rfl⟩ := splitLines_nil_eq_concat hs
      exact ht
  | cons c s ih =>
      rcases splitLines_cons_eq_concat hs with
        ⟨rfl, zs, rfl, hz⟩ | ⟨hc, rfl, z, rfl, hz⟩ | ⟨hc, w, ws, rfl, hz⟩
      · rw [List.cons_append, splitLines_cons_newline, ih hz, List.cons_append]
      · have hz' : splitLines s = [] ++ [z] := hz
        exact splitLines_cons hc (ih hz')
      · exact splitLines_cons hc (ih hz)

/-- A line feed ends one line and begins another. -/
theorem splitLines_append_newline (s t : Text) :
    splitLines (s ++ '\n' :: t) = splitLines s ++ splitLines t := by
  obtain ⟨xs, x, hs⟩ := exists_splitLines_concat s
  rw [splitLines_append hs (splitLines_cons_newline t), hs, List.append_nil, List.append_assoc,
    List.singleton_append]

/-- Reading a text of several lines leads to the end of its last one. -/
theorem advance_of_splitLines {t x : Text} {xs : List Text} (h : splitLines t = xs ++ [x])
    (p : Position) : Yaml.Token.advance p t =
      if xs = [] then ⟨p.line, p.column + x.length⟩ else ⟨p.line + xs.length, x.length + 1⟩ := by
  induction t generalizing p x xs with
  | nil =>
      obtain ⟨rfl, rfl⟩ := splitLines_nil_eq_concat h
      rfl
  | cons c t ih =>
      rw [Yaml.Token.advance]
      rcases splitLines_cons_eq_concat h with
        ⟨rfl, zs, rfl, hz⟩ | ⟨hc, rfl, z, rfl, hz⟩ | ⟨hc, w, ws, rfl, hz⟩
      · rw [if_pos rfl, ih hz, if_neg (List.cons_ne_nil _ _)]
        cases zs with
        | nil => simp [Position.lineStart, Nat.add_comm]
        | cons w ws => simp [Position.lineStart, Nat.add_comm, Nat.add_left_comm]
      · have hz' : splitLines t = [] ++ [z] := hz
        rw [if_neg hc, ih hz', if_pos rfl, if_pos rfl, List.length_cons]
        simp only [Position.mk.injEq, true_and]
        omega
      · rw [if_neg hc, ih hz, if_neg (List.cons_ne_nil _ _), if_neg (List.cons_ne_nil _ _)]
        rfl

/-- The position after a text is in its last line, past the end of it. -/
theorem positionAfter_of_splitLines {t x : Text} {xs : List Text} (h : splitLines t = xs ++ [x]) :
    positionAfter t = ⟨xs.length + 1, x.length + 1⟩ := by
  have ha := advance_positionAfter [] t
  rw [List.nil_append] at ha
  rw [← ha, advance_of_splitLines h]
  split
  · next hx => simp [hx, Position.first, Nat.add_comm]
  · simp [Position.first, Nat.add_comm]

/-! ## The last character -/

theorem dropLast?_concat (c : Char) (t : Text) : dropLast? c (t ++ [c]) = some t := by
  induction t with
  | nil => simp [dropLast?]
  | cons d t ih =>
      cases t with
      | nil => simp [dropLast?]
      | cons e t =>
          rw [List.cons_append, List.cons_append, dropLast?, ← List.cons_append, ih]
          rfl

theorem dropLast?_eq_none {c : Char} {t : Text} (h : t.getLast? ≠ some c) :
    dropLast? c t = none := by
  induction t with
  | nil => rfl
  | cons d t ih =>
      cases t with
      | nil =>
          rw [dropLast?, if_neg]
          intro hd
          exact h (by rw [hd]; rfl)
      | cons e t =>
          rw [List.getLast?_cons_cons] at h
          rw [dropLast?, ih h]
          rfl

/-! ## Lines put together -/

theorem joinLines_cons (line : Text) (lines : List Text) :
    joinLines (line :: lines) = line ++ lines.flatMap ('\n' :: ·) := by
  induction lines generalizing line with
  | nil => simp [joinLines, joinWith]
  | cons next lines ih =>
      have h := ih next
      rw [joinLines] at h
      rw [joinLines, joinWith, h]
      simp

theorem joinLines_concat (line : Text) (lines : List Text) (last : Text) :
    joinLines (line :: lines ++ [last]) = joinLines (line :: lines) ++ '\n' :: last := by
  rw [List.cons_append, joinLines_cons, joinLines_cons, List.flatMap_append, List.append_assoc]
  rw [List.flatMap_cons, List.flatMap_nil, List.append_nil]

/-- The text in which every line is followed by a line feed. -/
def terminated (lines : List Text) : Text := lines.flatMap (· ++ ['\n'])

theorem terminated_eq_joinLines {lines : List Text} (h : lines ≠ []) :
    terminated lines = joinLines lines ++ ['\n'] := by
  obtain ⟨line, lines, rfl⟩ := List.exists_cons_of_ne_nil h
  rw [joinLines_cons, terminated]
  clear h
  induction lines generalizing line with
  | nil => simp
  | cons next lines ih =>
      rw [List.flatMap_cons, ih next]
      simp

theorem terminated_splitLines (t : Text) : terminated (splitLines t) = t ++ ['\n'] := by
  have hne : splitLines t ≠ [] := splitOn_ne_nil '\n' t
  rw [terminated_eq_joinLines hne, joinLines_splitLines]

theorem terminated_cons (line : Text) (lines : List Text) :
    terminated (line :: lines) = line ++ '\n' :: terminated lines := by
  rw [terminated, List.flatMap_cons, List.append_assoc]
  rfl

theorem length_lt_terminated {line : Text} {lines : List Text} (h : line ∈ lines) :
    line.length < (terminated lines).length := by
  induction lines with
  | nil => cases h
  | cons first lines ih =>
      rw [terminated_cons, List.length_append, List.length_cons]
      rcases List.mem_cons.1 h with rfl | h
      · omega
      · have := ih h
        omega

/-- No line is longer than its text. -/
theorem length_le_of_mem_splitLines {t line : Text} (h : line ∈ splitLines t) :
    line.length ≤ t.length := by
  have hlt := length_lt_terminated h
  rw [terminated_splitLines, List.length_append, List.length_singleton] at hlt
  omega

theorem terminated_append (front back : List Text) :
    terminated (front ++ back) = terminated front ++ terminated back :=
  List.flatMap_append

theorem splitLines_terminated {lines : List Text} (h : ∀ l ∈ lines, '\n' ∉ l) :
    splitLines (terminated lines) = lines ++ [[]] := by
  induction lines with
  | nil => rfl
  | cons line lines ih =>
      rw [List.forall_mem_cons] at h
      have hline : splitLines line = [] ++ [line] := splitLines_of_not_mem h.1
      have hrest : splitLines ('\n' :: terminated lines) = [] :: (lines ++ [[]]) := by
        rw [splitLines_cons_newline, ih h.2]
      rw [terminated_cons, splitLines_append hline hrest, List.append_nil]
      rfl

/-- Reading whole lines leads to the start of the next. -/
theorem positionAfter_terminated {lines : List Text} (h : ∀ l ∈ lines, '\n' ∉ l) :
    positionAfter (terminated lines) = .lineStart (lines.length + 1) :=
  positionAfter_of_splitLines (splitLines_terminated h)

end Text

end YamlListing

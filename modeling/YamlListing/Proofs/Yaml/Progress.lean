import YamlListing.Proofs.Yaml.States

set_option autoImplicit false

/-! # Progress

On a line the lexer goes round a loop over an index: `turn` is what one round does at an index, and
says where the next one begins, if there is another. `loop` goes round as long as it is not past the
end of the line, but no more often than it may.

A round that does not leave the loop moves the index on, and not past the end of the line
(`turn_next`). So a loop that may go round as often as the line has characters ends there, with what
`lexRest` gives (`loop_eq`), and all of a text is lexed that way (`lexing_progresses`). -/

namespace YamlListing.Yaml.Lexer

open Text (byteLength splitLines)

/-! ## One round at an index -/

/-- What stands at an index of a line, if the index is not at its end. -/
def Line.round? (line : Line) (s : State) (i : Nat) : Option Round :=
  match line.text.drop i with
  | [] => none
  | c :: rest => some (round s.flow s.isAfterKey (line.text.take i).getLast? c rest)

/-- The end of the plain scalar that begins at an index. -/
def Line.plainEnd (line : Line) (s : State) (i : Nat) : Nat :=
  i + (plainScalar (0 < s.flow) (line.text.drop i)).length

/-- Whether nothing else than a plain scalar can stand at an index. -/
def Line.FallsBack (line : Line) (s : State) (i : Nat) : Prop :=
  ∃ raw value, line.round? s i = some (.token (.scalar .plain) raw value)

/-- What a round does. -/
structure Turn where
  /-- The token that it pushes, if it does. -/
  steps : List Step
  state : State
  /-- The index at which the next round begins, or `none` if the round leaves the loop. -/
  next : Option Nat

/-- A round of the loop over a line, at an index. -/
def turn (ctx : LineContext) (line : Line) (s : State) (i : Nat) : Turn :=
  let place := ctx.place (line.cursor.skip i)
  match line.round? s i with
  | none => ⟨[], s, none⟩
  | some .blank => ⟨[], s, some (i + 1)⟩
  | some (.token kind raw value) =>
    ⟨[s.step place kind raw value], s.push ctx.indent kind raw, some (i + raw.length)⟩
  | some (.comment raw value) =>
    ⟨[s.step place .comment raw value], s.push ctx.indent .comment raw, none⟩
  | some (.openQuote quote) =>
    ⟨[], { s with quote := some ⟨quote, line.text.drop i, place⟩ }, none⟩

/-- The loop over a line from an index on. It goes round at most as often as the first argument
    says, and gives nothing if it is not at the end of the line by then. -/
def loop (ctx : LineContext) (line : Line) : Nat → State → Nat → Option (List Step × State)
  | 0, s, i => if line.text.length ≤ i then some ([], s) else none
  | rounds + 1, s, i =>
    if line.text.length ≤ i then some ([], s)
    else
      let done := turn ctx line s i
      match done.next with
      | none => some (done.steps, done.state)
      | some j =>
        (loop ctx line rounds done.state j).map fun result => (done.steps ++ result.1, result.2)

section round

variable {line : Line} {s : State} {i : Nat}

theorem Line.round?_of_lt (h : i < line.text.length) : ∃ c rest, line.text.drop i = c :: rest ∧
    line.round? s i =
      some (round s.flow s.isAfterKey (line.text.take i).getLast? c rest) := by
  have hdrop : line.text.drop i ≠ [] := by
    intro hnil
    have hle := List.drop_eq_nil_iff.1 hnil
    omega
  obtain ⟨c, rest, hcons⟩ := List.exists_cons_of_ne_nil hdrop
  refine ⟨c, rest, hcons, ?_⟩
  rw [Line.round?, hcons]

/-- A token that a round finds has some text, and the line holds it. -/
theorem Line.round?_token {kind : TokenKind} {raw value : Text}
    (h : line.round? s i = some (.token kind raw value)) :
    0 < raw.length ∧ i + raw.length ≤ line.text.length := by
  unfold Line.round? at h
  split at h
  · cases h
  · next c rest hcons =>
    have hround := Option.some.inj h
    have hpos := List.length_pos_iff.2 (Round.token_ne_nil hround)
    have hle := (Round.token_isPrefix hround).1.length_le
    rw [← hcons, List.length_drop] at hle
    omega

/-- A round leaves the loop or moves the index on, and not past the end of the line. -/
theorem turn_next (ctx : LineContext) (h : i < line.text.length) :
    ∀ j ∈ (turn ctx line s i).next, i < j ∧ j ≤ line.text.length := by
  intro j hj
  unfold turn at hj
  split at hj
  · cases hj
  · obtain rfl := Option.some.inj hj
    omega
  · next kind raw value hround =>
    have hlength := Line.round?_token hround
    obtain rfl := Option.some.inj hj
    omega
  · cases hj
  · cases hj

/-- Where the loop falls back on a plain scalar, the scalar has an end further on. -/
theorem turn_next_of_fallsBack (ctx : LineContext) (h : line.FallsBack s i) :
    (turn ctx line s i).next = some (line.plainEnd s i) ∧ i < line.plainEnd s i := by
  obtain ⟨raw, value, hround⟩ := h
  have hraw : raw = plainScalar (0 < s.flow) (line.text.drop i) := by
    unfold Line.round? at hround
    split at hround
    · cases hround
    · next c rest hcons =>
      rw [hcons]
      exact Round.plain_eq (Option.some.inj hround) rfl
  have hpos := (Line.round?_token hround).1
  unfold turn Line.plainEnd
  rw [hround, ← hraw]
  exact ⟨rfl, by omega⟩

end round

/-! ## The loop over a line -/

section loop

variable {line : Line} {ctx : LineContext}

theorem Cursor.skip_skip (cur : Cursor) (m n : Nat) : (cur.skip m).skip n = cur.skip (m + n) := by
  simp only [Cursor.skip, List.take_add, List.drop_drop, List.getLast?_append, Option.or_assoc,
    List.length_append, Text.byteLength_append, Nat.add_assoc]

theorem Line.before_skip (line : Line) (i : Nat) :
    (line.cursor.skip i).before = (line.text.take i).getLast? := by
  rw [Cursor.skip, Line.cursor, Option.or_none]

/-- Lexing what is left of a line from an index on is a round, and the rest of the line if that
round does not leave the loop. -/
theorem lexRest_eq_turn (s : State) {i : Nat} (h : i < line.text.length) :
    let done := turn ctx line s i
    lexRest ctx s (line.cursor.skip i) = match done.next with
      | none => (done.steps, done.state)
      | some j =>
        let result := lexRest ctx done.state (line.cursor.skip j)
        (done.steps ++ result.1, result.2) := by
  obtain ⟨c, rest, hcons, hround⟩ := Line.round?_of_lt (s := s) h
  have hrest : (line.cursor.skip i).rest = c :: rest := hcons
  rw [lexRest_cons hrest, line.before_skip]
  unfold turn
  rw [hround]
  cases round s.flow s.isAfterKey (line.text.take i).getLast? c rest with
  | blank => simp only [Cursor.skip_skip, List.nil_append]
  | token kind raw value => simp only [Cursor.skip_skip, List.singleton_append]
  | comment raw value => rfl
  | openQuote quote =>
    rw [hcons]

/-- At the end of a line nothing is left to lex. -/
theorem lexRest_eq_nil {s : State} {i : Nat} (h : line.text.length ≤ i) :
    lexRest ctx s (line.cursor.skip i) = ([], s) :=
  lexRest_nil (List.drop_eq_nil_of_le h)

/-- A loop that may go round as often as there are characters left comes to the end of the line. -/
theorem loop_eq {rounds : Nat} {s : State} {i : Nat} (h : line.text.length ≤ i + rounds) :
    loop ctx line rounds s i = some (lexRest ctx s (line.cursor.skip i)) := by
  induction rounds generalizing s i with
  | zero =>
    have hend : line.text.length ≤ i := h
    rw [loop, if_pos hend, lexRest_eq_nil hend]
  | succ rounds ih =>
    rw [loop]
    split
    · next hend => rw [lexRest_eq_nil hend]
    · next hlt =>
      have hi : i < line.text.length := Nat.lt_of_not_le hlt
      have hnext := turn_next (s := s) ctx hi
      rw [lexRest_eq_turn s hi]
      cases hturn : (turn ctx line s i).next with
      | none => simp only [hturn]
      | some j =>
        -- One round fewer is enough, since the index has moved on.
        have hj := (hnext j hturn).1
        have hrest := ih (s := (turn ctx line s i).state) (i := j) (by omega)
        simp only [hturn, hrest, Option.map_some]

end loop

/-! ## Lines and texts by rounds -/

/-- Goes over what is left of a line that has been begun, with a bound on the rounds. -/
def Opening.finish (rounds : Nat) (line : Line) : Opening → Option (List Step × State)
  | .read steps s => some (steps, s)
  | .enter steps ctx s i =>
    (loop ctx line rounds s i).map fun result => (steps ++ result.1, result.2)

/-- Lexes lines, with a bound on the rounds for each. -/
def linesWithin (rounds : Nat) (s : State) (number offset : Nat) :
    List Text → Option (List Step)
  | [] => some s.unclosed
  | text :: rest => do
    let line : Line := ⟨number, offset, text⟩
    let (steps, s') ← (openLine s line).finish rounds line
    let steps' ← linesWithin rounds s' (number + 1) (offset + byteLength text + 1) rest
    some (steps ++ steps')

/-- The tokens of a text, if a number of rounds is enough for each of its lines. -/
def stepsWithin (rounds : Nat) (t : Text) : Option (List Step) :=
  linesWithin rounds .start 1 0 (splitLines t)

section opening

variable {line : Line} {rounds : Nat}

/-- With as many rounds as the line has characters it is lexed. -/
theorem Opening.finish_eq (opening : Opening) (h : line.text.length ≤ rounds) :
    opening.finish rounds line = some (opening.lex line) := by
  cases opening with
  | read steps s => rfl
  | enter steps ctx s i =>
    rw [Opening.finish, loop_eq (Nat.le_add_left_of_le h), Option.map_some]
    rfl

theorem linesWithin_eq {lines : List Text} (s : State) (number offset : Nat)
    (h : ∀ text ∈ lines, text.length ≤ rounds) :
    linesWithin rounds s number offset lines = some (lexLines s number offset lines) := by
  induction lines generalizing s number offset with
  | nil => rfl
  | cons text lines ih =>
    obtain ⟨htext, hlines⟩ := List.forall_mem_cons.1 h
    have hline : (openLine s ⟨number, offset, text⟩).finish rounds ⟨number, offset, text⟩ =
        some (lexLine s ⟨number, offset, text⟩) :=
      (openLine s ⟨number, offset, text⟩).finish_eq htext
    rw [linesWithin, hline, lexLines_cons]
    simp only [Option.bind_eq_bind, Option.bind_some, ih _ _ _ hlines]

end opening

/-! ## Texts -/

/-- At every index of a line, in any state, a round leaves the loop or moves the index on, and not
past the end of the line; a plain scalar that the loop falls back on ends after the index at which
it begins. So for every text it is enough that the loop over each line may go round as often as
there are characters, and no token is empty. -/
theorem lexing_progresses :
    (∀ (ctx : LineContext) (line : Line) (s : State) (i : Nat), i < line.text.length →
      (∀ j ∈ (turn ctx line s i).next, i < j ∧ j ≤ line.text.length) ∧
      (line.FallsBack s i →
        (turn ctx line s i).next = some (line.plainEnd s i) ∧ i < line.plainEnd s i)) ∧
    ∀ t : Text, stepsWithin t.length t = some (steps t) ∧ ∀ token ∈ tokenize t, token.raw ≠ [] := by
  refine ⟨fun ctx line s i hi => ⟨turn_next ctx hi, turn_next_of_fallsBack ctx⟩, fun t => ?_⟩
  refine ⟨linesWithin_eq .start 1 0 fun _ htext => Text.length_le_of_mem_splitLines htext, ?_⟩
  intro token htoken
  exact ((tokenize_tiles t).isProper token htoken).raw_ne_nil

/-- Inside a flow collection a colon begins a plain scalar if a letter is joined to it. -/
theorem lexing_progresses_colon :
    let line : Line := ⟨1, 0, [':', 'x', ' ', ',']⟩
    let s : State := { State.start with flow := 1 }
    0 < line.text.length ∧ line.FallsBack s 0 ∧ (turn ⟨1, 0, 0⟩ line s 0).next = some 2 ∧
      0 < 2 ∧ 2 ≤ line.text.length := by
  intro line s
  have hlt : 0 < line.text.length := by decide
  have hfalls : line.FallsBack s 0 := ⟨[':', 'x'], [':', 'x'], rfl⟩
  obtain ⟨hmoves, hplain⟩ := lexing_progresses.1 ⟨1, 0, 0⟩ line s 0 hlt
  have hnext : (turn ⟨1, 0, 0⟩ line s 0).next = some 2 := (hplain hfalls).1
  exact ⟨hlt, hfalls, hnext, hmoves 2 hnext⟩

end YamlListing.Yaml.Lexer

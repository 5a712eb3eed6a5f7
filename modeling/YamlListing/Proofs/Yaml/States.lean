import YamlListing.Proofs.Yaml.Lossless

set_option autoImplicit false

/-! # The states between lines

`State.after` is the state after some lines. If it holds no quote open, what comes next is lexed
from that state and from nothing else (`lexLines_append`).

While a block scalar is being read, its content is told from what ends it by the indentation of the
line (`BlockScalar.Takes`, `lexLine_content`, `lexLine_end`).

The stack of indentations grows strictly from 0 on, whatever is lexed (`IsNested`). -/

namespace YamlListing.Yaml.Lexer

open Text (byteLength splitLines terminated)

/-! ## One line after the other -/

/-- The state after lines, the first of which has the given number and distance from the start. -/
def State.after (s : State) (number offset : Nat) : List Text → State
  | [] => s
  | text :: rest =>
    (lexLine s ⟨number, offset, text⟩).2.after (number + 1) (offset + byteLength text + 1) rest

/-- The state after a text. -/
def endState (t : Text) : State := State.start.after 1 0 (splitLines t)

/-- Whether the tokens of a text show a quote that it does not close. -/
def LeavesQuoteOpen (t : Text) : Prop :=
  ∃ token ∈ tokenize t, token.kind = .invalid ∧ token.indicator = .quotedScalar

instance (t : Text) : Decidable (LeavesQuoteOpen t) :=
  inferInstanceAs (Decidable (∃ token ∈ tokenize t, _))

theorem lexLines_cons (s : State) (number offset : Nat) (text : Text) (rest : List Text) :
    lexLines s number offset (text :: rest) = (lexLine s ⟨number, offset, text⟩).1 ++
      lexLines (lexLine s ⟨number, offset, text⟩).2 (number + 1) (offset + byteLength text + 1)
        rest :=
  rfl

theorem State.unclosed_of_none {s : State} (h : s.quote = none) : s.unclosed = [] := by
  rw [State.unclosed, h]

/-- What follows lines that leave no quote open is lexed from the state that they lead to. -/
theorem lexLines_append {s : State} {number offset : Nat} {front : List Text} (back : List Text)
    (h : (s.after number offset front).quote = none) :
    lexLines s number offset (front ++ back) = lexLines s number offset front ++
      lexLines (s.after number offset front) (number + front.length)
        (offset + byteLength (terminated front)) back := by
  induction front generalizing s number offset with
  | nil =>
    have hnil : lexLines s number offset [] = [] := State.unclosed_of_none h
    rw [hnil]
    rfl
  | cons text front ih =>
    have hbytes : offset + byteLength (terminated (text :: front)) =
        offset + byteLength text + 1 + byteLength (terminated front) := by
      rw [Text.terminated_cons, Text.byteLength_append, Text.byteLength_cons]
      have hnewline : '\n'.utf8Size = 1 := rfl
      omega
    rw [List.cons_append, lexLines_cons, ih h, lexLines_cons, List.append_assoc, hbytes,
      List.length_cons, State.after, Nat.add_right_comm number]
    rfl

/-- An open quote shows, whatever was lexed before it. -/
theorem exists_mem_lexLines {s : State} {number offset : Nat} {lines : List Text} {q : OpenQuote}
    (h : (s.after number offset lines).quote = some q) :
    ∃ step ∈ lexLines s number offset lines,
      step.token.kind = .invalid ∧ step.token.indicator = .quotedScalar := by
  induction lines generalizing s number offset with
  | nil =>
    rw [State.after] at h
    rw [lexLines, State.unclosed, h]
    exact ⟨_, List.mem_singleton_self _, rfl, rfl⟩
  | cons text lines ih =>
    obtain ⟨step, hstep, hopen⟩ := ih h
    exact ⟨step, List.mem_append_right _ hstep, hopen⟩

theorem quote_endState {t : Text} (h : ¬ LeavesQuoteOpen t) : (endState t).quote = none := by
  refine Option.eq_none_iff_forall_ne_some.2 fun q hq => ?_
  obtain ⟨step, hstep, hopen⟩ := exists_mem_lexLines hq
  exact h ⟨step.token, List.mem_map_of_mem hstep, hopen⟩

/-! ## Lines that a block scalar runs into -/

section block

variable {s : State} {line : Line} {b : BlockScalar} {n : Nat}

theorem BlockScalar.indentAt_eq (b : BlockScalar) (indent : Nat) : b.indentAt indent =
    b.contentIndent.or (if b.parentIndent < indent then some indent else none) := by
  rw [BlockScalar.indentAt]
  cases b.contentIndent <;> rfl

theorem takes_iff_of_some (h : b.contentIndent = some n) (indent : Nat) :
    b.Takes indent ↔ n ≤ indent := by
  rw [BlockScalar.Takes, b.indentAt_eq, h, Option.some_or]
  constructor
  · rintro ⟨m, hm, hle⟩
    rwa [Option.some.inj hm]
  · exact fun hle => ⟨n, rfl, hle⟩

theorem takes_iff_of_none (h : b.contentIndent = none) (indent : Nat) :
    b.Takes indent ↔ b.parentIndent < indent := by
  rw [BlockScalar.Takes, b.indentAt_eq, h, Option.none_or]
  split
  · next hlt => exact iff_of_true ⟨indent, rfl, Nat.le_refl indent⟩ hlt
  · next hlt => exact iff_of_false nofun hlt

theorem lexLine_of_isBlank (hquote : s.quote = none) (hblock : s.block = some b)
    (h : line.isBlank = true) : lexLine s line = ([], s) := by
  rw [lexLine_eq_lexBlock hquote hblock, lexBlock_of_isBlank h]

/-- A line of content gives one token, and fixes the indentation of the content if nothing has. -/
theorem lexLine_content (hquote : s.quote = none) (hblock : s.block = some b)
    (hblank : line.isBlank = false) (h : b.Takes line.indent) :
    (∃ step, (lexLine s line).1 = [step] ∧ step.token.kind = .blockContent) ∧
      (lexLine s line).2.quote = none ∧ (lexLine s line).2.block =
        some ⟨b.parentIndent, b.contentIndent.or (some line.indent)⟩ := by
  obtain ⟨n, hindent, hle⟩ := h
  have hn : b.contentIndent.or (some line.indent) = some n := by
    rw [← hindent, b.indentAt_eq]
    rw [b.indentAt_eq] at hindent
    cases hcontent : b.contentIndent with
    | some m => rfl
    | none =>
      rw [hcontent, Option.none_or] at hindent
      split at hindent
      · next hlt => rw [if_pos hlt]
      · cases hindent
  rw [lexLine_eq_lexBlock hquote hblock, lexBlock_of_le hblank hindent hle, hn]
  exact ⟨⟨_, rfl, rfl⟩, hquote, rfl⟩

/-- Any other line that is not blank ends the scalar and is lexed as if there were none. -/
theorem lexLine_end (hquote : s.quote = none) (hblock : s.block = some b)
    (hblank : line.isBlank = false) (h : ¬ b.Takes line.indent) :
    lexLine s line = lexFresh { s with block := none } line := by
  rw [lexLine_eq_lexBlock hquote hblock, lexBlock_of_not_takes hblank h]

theorem lexLine_eq_lexFresh (hquote : s.quote = none)
    (h : ∀ b ∈ s.block, line.isBlank = false ∧ ¬ b.Takes line.indent) :
    lexLine s line = lexFresh { s with block := none } line := by
  cases hblock : s.block with
  | none =>
    have hs : { s with block := none } = s := by rw [← hblock]
    rw [hs, lexLine_of_none hquote hblock]
  | some b => exact lexLine_end hquote hblock (h b hblock).1 (h b hblock).2

end block

/-! ## Indentations -/

/-- Whether indentations, innermost first, decrease strictly down to 0. -/
structure IsNested (indents : List Nat) : Prop where
  decreasing : indents.Pairwise (· > ·)
  outermost : indents.getLast? = some 0

namespace IsNested

variable {top indent : Nat} {indents rest : List Nat}

theorem start : IsNested [0] := ⟨List.pairwise_singleton _ 0, rfl⟩

theorem tail (h : IsNested (top :: rest)) (hrest : rest ≠ []) : IsNested rest := by
  refine ⟨h.decreasing.of_cons, ?_⟩
  rw [← h.outermost, List.getLast?_cons_of_ne_nil hrest]

theorem cons (h : IsNested (top :: rest)) (hindent : top < indent) :
    IsNested (indent :: top :: rest) := by
  refine ⟨List.pairwise_cons.2 ⟨?_, h.decreasing⟩, ?_⟩
  · intro other hother
    rcases List.mem_cons.1 hother with rfl | hother
    · exact hindent
    · exact Nat.lt_trans (List.rel_of_pairwise_cons h.decreasing hother) hindent
  · rw [List.getLast?_cons_cons, h.outermost]

/-- Taking off what is deeper leaves a stack whose top is not. -/
theorem unindent (h : IsNested indents) (indent : Nat) :
    ∃ top rest, State.unindent indent indents = top :: rest ∧ top ≤ indent ∧
      IsNested (top :: rest) := by
  fun_induction State.unindent indent indents with
  | case1 top next rest htop ih => exact ih (h.tail (List.cons_ne_nil next rest))
  | case2 top next rest htop => exact ⟨top, next :: rest, rfl, Nat.le_of_not_lt htop, h⟩
  | case3 stack hstack =>
    -- A stack that is not empty and has no second entry has just the outermost one.
    cases stack with
    | nil => cases h.outermost
    | cons top rest =>
      cases rest with
      | nil =>
        have htop : top = 0 := Option.some.inj h.outermost
        exact ⟨top, [], rfl, by omega, h⟩
      | cons next rest => exact absurd rfl (hstack top next rest)

/-- The stack for a line has its indentation on top. -/
theorem indentTo (h : IsNested indents) (indent : Nat) :
    ∃ rest, State.indentTo indent indents = indent :: rest ∧ IsNested (indent :: rest) := by
  obtain ⟨top, rest, hunindent, htop, hnested⟩ := h.unindent indent
  rw [State.indentTo, hunindent]
  rcases Nat.lt_or_eq_of_le htop with hlt | rfl
  · exact ⟨top :: rest, if_pos hlt, hnested.cons hlt⟩
  · exact ⟨rest, if_neg (Nat.lt_irrefl top), hnested⟩

/-- A line that is not indented ends all nesting. -/
theorem indentTo_zero (h : IsNested indents) : State.indentTo 0 indents = [0] := by
  obtain ⟨rest, heq, hnested⟩ := h.indentTo 0
  cases rest with
  | nil => exact heq
  | cons next rest =>
    exact absurd (List.rel_of_pairwise_cons hnested.decreasing List.mem_cons_self)
      (Nat.not_lt_zero next)

theorem eq_start_iff (h : IsNested indents) : indents = [0] ↔ indents.length - 1 = 0 := by
  refine ⟨fun heq => by rw [heq]; rfl, fun hlength => ?_⟩
  match indents, h.outermost with
  | [_], htop => exact congrArg (fun outermost => [outermost]) (Option.some.inj htop)
  | _ :: _ :: _, _ => exact absurd hlength (Nat.succ_ne_zero _)

end IsNested

section indents

variable {s : State} {line : Line}

theorem State.push_isNested (h : IsNested s.indents) (indent : Nat) (kind : TokenKind)
    (raw : Text) : IsNested (s.push indent kind raw).indents := by
  cases kind with
  | documentHeader => exact IsNested.start
  | _ => exact h

theorem State.enter_isNested (h : IsNested s.indents) (line : Line) :
    IsNested (s.enter line).indents := by
  rw [State.enter]
  split
  · obtain ⟨rest, heq, hnested⟩ := h.indentTo line.indent
    rw [← heq] at hnested
    exact hnested
  · exact h

theorem lexRest_isNested (ctx : LineContext) (h : IsNested s.indents) (cur : Cursor) :
    IsNested (lexRest ctx s cur).2.indents := by
  induction s, cur using lexRest.induct ctx with
  | case1 s cur hrest =>
    rw [lexRest_nil hrest]
    exact h
  | case2 s cur c rest hrest hround ih =>
    rw [lexRest_cons hrest, hround]
    exact ih h
  | case3 s cur c rest hrest kind raw value hround steps s' hresult ih =>
    rw [lexRest_cons hrest, hround]
    exact ih (State.push_isNested h ctx.indent kind raw)
  | case4 s cur c rest hrest raw value hround =>
    rw [lexRest_cons hrest, hround]
    exact State.push_isNested h ctx.indent .comment raw
  | case5 s cur c rest hrest quote hround =>
    rw [lexRest_cons hrest, hround]
    exact h

/-- The state in which a line is begun. -/
def Opening.state : Opening → State
  | .read _ s => s
  | .enter _ _ s _ => s

theorem openFresh_isNested (h : IsNested s.indents) (line : Line) :
    IsNested (openFresh s line).state.indents := by
  have henter := State.enter_isNested h line
  unfold openFresh
  cases lineStart? line.text with
  | none => exact henter
  | some found => exact State.push_isNested henter _ _ _

theorem openQuoted_isNested (h : IsNested s.indents) (line : Line) (q : OpenQuote) :
    IsNested (openQuoted s line q).state.indents := by
  unfold openQuoted
  cases quoteLength? q.quote line.text with
  | none => exact h
  | some n =>
    exact State.push_isNested (s := { s with quote := none }) h line.indent
      (.scalar (quoteStyle q.quote)) (q.raw ++ '\n' :: line.text.take n)

theorem openBlock_isNested (h : IsNested s.indents) (line : Line) (b : BlockScalar) :
    IsNested (openBlock s line b).state.indents := by
  have hfresh := openFresh_isNested (s := { s with block := none }) h line
  rw [openBlock]
  split
  · exact h
  · split
    · exact hfresh
    · split
      · exact h
      · exact hfresh

theorem openLine_isNested (h : IsNested s.indents) (line : Line) :
    IsNested (openLine s line).state.indents := by
  rw [openLine]
  split
  · exact openQuoted_isNested h line _
  · exact openBlock_isNested h line _
  · exact openFresh_isNested h line

theorem lexLine_isNested (h : IsNested s.indents) (line : Line) :
    IsNested (lexLine s line).2.indents := by
  have hopen := openLine_isNested h line
  rw [lexLine]
  cases hline : openLine s line with
  | read steps t =>
    rw [hline] at hopen
    exact hopen
  | enter steps ctx t passed =>
    rw [hline] at hopen
    exact lexRest_isNested ctx hopen (line.cursor.skip passed)

theorem State.after_isNested (h : IsNested s.indents) (number offset : Nat)
    (lines : List Text) : IsNested (s.after number offset lines).indents := by
  induction lines generalizing s number offset with
  | nil => exact h
  | cons text lines ih => exact ih (lexLine_isNested h _) _ _

theorem endState_isNested (t : Text) : IsNested (endState t).indents :=
  State.after_isNested IsNested.start _ _ _

end indents

end YamlListing.Yaml.Lexer

import YamlListing.Proofs.Yaml.Cover
import YamlListing.Proofs.Yaml.Rounds

set_option autoImplicit false

/-! # The lexer loses nothing

The tokens of a text tile it (`tokenize_tiles`). Between two lines the lexer may hold back the text
of a quote that is still open; `IsLexed` says what it has done with a stretch of text up to there:
its tokens tile all but that open end. One lemma for each function that lexes a line carries this
over the line, and `lexLines_tiles` over all of them. -/

namespace YamlListing.Yaml.Lexer

open Unicode (isBlank)
open Text (byteLength positionAfter)

/-! ## Where the lexer stands -/

/-- Whether an open quote begins right after a text. -/
structure OpenQuote.IsAt (q : OpenQuote) (before : Text) : Prop where
  offset : q.place.offset = byteLength before
  position : q.place.position = positionAfter before
  raw : ∃ c rest, q.raw = c :: rest ∧ c ≠ '\n'

/-- Whether a cursor on a line stands right after a text. -/
structure Cursor.IsAt (cur : Cursor) (number : Nat) (before : Text) : Prop where
  offset : cur.offset = byteLength before
  position : positionAfter before = ⟨number, cur.column⟩
  newline_not_mem : '\n' ∉ cur.rest

/-- Whether a line begins right after a text. -/
structure Line.IsAt (line : Line) (before : Text) : Prop where
  offset : line.offset = byteLength before
  position : positionAfter before = .lineStart line.number
  newline_not_mem : '\n' ∉ line.text

theorem Line.IsAt.cursor {line : Line} {before : Text} (h : line.IsAt before) :
    line.cursor.IsAt line.number before :=
  ⟨h.offset, h.position, h.newline_not_mem⟩

theorem Cursor.rest_skip {cur : Cursor} {passed after : Text} (h : cur.rest = passed ++ after) :
    (cur.skip passed.length).rest = after := by
  rw [Cursor.skip, h]
  exact List.drop_left

/-- Moving a cursor past some characters leads to the place after them. -/
theorem Cursor.IsAt.skip {cur : Cursor} {number : Nat} {before passed after : Text}
    (h : cur.IsAt number before) (hrest : cur.rest = passed ++ after) :
    (cur.skip passed.length).IsAt number (before ++ passed) := by
  have hnew := h.newline_not_mem
  rw [hrest, List.mem_append, not_or] at hnew
  have htake : cur.rest.take passed.length = passed := by
    rw [hrest]
    exact List.take_left
  constructor
  · simp only [Cursor.skip, htake, h.offset, Text.byteLength_append]
  · rw [Text.positionAfter_append hnew.1, h.position]
    simp only [Cursor.skip, htake]
  · rw [Cursor.rest_skip hrest]
    exact hnew.2

theorem State.push_quote (s : State) (indent : Nat) (kind : TokenKind) (raw : Text) :
    (s.push indent kind raw).quote = s.quote := by
  cases kind <;> rfl

/-! ## What has been lexed -/

/-- The text that is held back. -/
def State.pending (s : State) : Text := (s.quote.map (·.raw)).getD []

theorem State.pending_of_none {s : State} (h : s.quote = none) : s.pending = [] := by
  rw [State.pending, h]
  rfl

theorem State.pending_of_some {s : State} {q : OpenQuote} (h : s.quote = some q) :
    s.pending = q.raw := by
  rw [State.pending, h]
  rfl

/-- The tokens of a stretch of text and the state after it: the tokens tile the text up to where the
    state holds it back. -/
def IsLexed (before text : Text) (result : List Step × State) : Prop :=
  ∃ done, text = done ++ result.2.pending ∧ Tiles before done (result.1.map (·.token)) ∧
    ∀ q, result.2.quote = some q → q.IsAt (before ++ done)

namespace IsLexed

variable {before text : Text} {steps : List Step} {s : State}

theorem ofBlank {gap : Text} {result : List Step × State} (hgap : ∀ c ∈ gap, isBlank c = true)
    (h : IsLexed (before ++ gap) text result) : IsLexed before (gap ++ text) result := by
  obtain ⟨done, rfl, hdone, hquote⟩ := h
  refine ⟨gap ++ done, by rw [List.append_assoc], Tiles.ofBlank hgap hdone, ?_⟩
  intro q hq
  rw [← List.append_assoc]
  exact hquote q hq

theorem cons {step : Step} (hproper : step.token.IsProper) (hat : step.token.IsAt before)
    (h : IsLexed (before ++ step.token.raw) text (steps, s)) :
    IsLexed before (step.token.raw ++ text) (step :: steps, s) := by
  obtain ⟨done, htext, hdone, hquote⟩ := h
  refine ⟨step.token.raw ++ done, ?_, (Tiles.single hproper hat).append hdone, ?_⟩
  · rw [htext, List.append_assoc]
  · intro q hq
    rw [← List.append_assoc]
    exact hquote q hq

/-- Blanks after which nothing is held back. -/
theorem blank (htext : ∀ c ∈ text, isBlank c = true) (hs : s.quote = none) :
    IsLexed before text ([], s) := by
  refine ⟨text, ?_, .nil htext, ?_⟩
  · rw [State.pending_of_none hs, List.append_nil]
  · intro q hq
    rw [hs] at hq
    cases hq

/-- A token in front of what a cursor has left, when the rest has been lexed. -/
theorem token {ctx : LineContext} {cur : Cursor} {raw after : Text}
    (h : cur.IsAt ctx.number before) (hrest : cur.rest = raw ++ after) (s' : State)
    (kind : TokenKind) (value : Text) (hne : raw ≠ []) (hkind : kind = .mappingValue → raw = [':'])
    (hlexed : IsLexed (before ++ raw) after (steps, s)) :
    IsLexed before cur.rest (s'.step (ctx.place cur) kind raw value :: steps, s) := by
  have hproper : (s'.step (ctx.place cur) kind raw value).token.IsProper := by
    refine ⟨hne, ?_, hkind⟩
    intro hlast
    apply h.newline_not_mem
    rw [hrest]
    exact List.mem_append_left _ (List.mem_of_getLast? hlast)
  rw [hrest]
  exact cons hproper ⟨h.offset, h.position.symm⟩ hlexed

end IsLexed

/-! ## Lines -/

theorem lexRest_nil {ctx : LineContext} {s : State} {cur : Cursor} (h : cur.rest = []) :
    lexRest ctx s cur = ([], s) := by
  rw [lexRest]
  split
  · rfl
  · next h' => rw [h] at h'; cases h'

/-- One round of the loop over a line. -/
theorem lexRest_cons {ctx : LineContext} {s : State} {cur : Cursor} {c : Char} {rest : Text}
    (h : cur.rest = c :: rest) :
    lexRest ctx s cur = match round s.flow s.isAfterKey cur.before c rest with
      | .blank => lexRest ctx s (cur.skip 1)
      | .token kind raw value =>
        let result := lexRest ctx (s.push ctx.indent kind raw) (cur.skip raw.length)
        (s.step (ctx.place cur) kind raw value :: result.1, result.2)
      | .comment raw value =>
        ([s.step (ctx.place cur) .comment raw value], s.push ctx.indent .comment raw)
      | .openQuote quote => ([], { s with quote := some ⟨quote, c :: rest, ctx.place cur⟩ }) := by
  rw [lexRest]
  split
  · next h' => rw [h] at h'; cases h'
  · next d rest' h' =>
      rw [h] at h'
      obtain ⟨rfl, rfl⟩ := List.cons.inj h'
      split <;> next hround => rw [hround]

/-- What is left of a line is lexed up to a quote that the line leaves open. -/
theorem lexRest_isLexed (ctx : LineContext) {s : State} {cur : Cursor} {before : Text}
    (h : cur.IsAt ctx.number before) (hs : s.quote = none) :
    IsLexed before cur.rest (lexRest ctx s cur) := by
  -- Along the loop's own recursion; `before` grows by what each round takes off.
  induction s, cur using lexRest.induct ctx generalizing before with
  | case1 s cur hrest =>
      rw [lexRest_nil hrest, hrest]
      exact IsLexed.blank (by simp) hs
  | case2 s cur c rest hrest hround ih =>
      have hsplit : cur.rest = [c] ++ rest := hrest
      have hat := h.skip hsplit
      rw [lexRest_cons hrest, hround]
      have hafter := ih hat hs
      rw [show cur.skip 1 = cur.skip [c].length from rfl, Cursor.rest_skip hsplit] at hafter
      rw [hsplit]
      exact IsLexed.ofBlank (by simpa using Round.blank_isBlank hround) hafter
  | case3 s cur c rest hrest kind raw value hround steps s' hresult ih =>
      obtain ⟨⟨after, hafter⟩, hkind⟩ := Round.token_isPrefix hround
      have hsplit : cur.rest = raw ++ after := by rw [hrest, hafter]
      have hlexed := ih (h.skip hsplit) (by rw [State.push_quote, hs])
      rw [Cursor.rest_skip hsplit] at hlexed
      rw [lexRest_cons hrest, hround]
      exact IsLexed.token h hsplit s kind value (Round.token_ne_nil hround) hkind hlexed
  | case4 s cur c rest hrest raw value hround =>
      obtain ⟨rfl, hc⟩ := Round.comment_eq hround
      obtain ⟨gap, hgap, hblank⟩ := Text.exists_trimEnd_append (c :: rest)
      have hsplit : cur.rest = Text.trimEnd (c :: rest) ++ gap := by rw [hrest, ← hgap]
      have hs' : (s.push ctx.indent .comment (Text.trimEnd (c :: rest))).quote = none := by
        rw [State.push_quote, hs]
      rw [lexRest_cons hrest, hround]
      exact IsLexed.token h hsplit s .comment value (trimEnd_ne_nil hc _) nofun
        (IsLexed.blank hblank hs')
  | case5 s cur c rest hrest quote hround =>
      rw [lexRest_cons hrest, hround]
      refine ⟨[], hrest, .nil (by simp), ?_⟩
      intro q hq
      obtain rfl := Option.some.inj hq
      rw [List.append_nil]
      have hc := h.newline_not_mem
      rw [hrest, List.mem_cons, not_or] at hc
      exact ⟨h.offset, h.position.symm, c, rest, rfl, fun he => hc.1 he.symm⟩

/-- What comes after a stretch at the start of a line is lexed likewise. -/
theorem lexRest_skip_isLexed (ctx : LineContext) {s : State} {cur : Cursor}
    {before passed after : Text} (h : cur.IsAt ctx.number before)
    (hrest : cur.rest = passed ++ after) (hs : s.quote = none) :
    IsLexed (before ++ passed) after (lexRest ctx s (cur.skip passed.length)) := by
  have hlexed := lexRest_isLexed ctx (h.skip hrest) hs
  rw [Cursor.rest_skip hrest] at hlexed
  exact hlexed

theorem State.enter_quote (s : State) (line : Line) : (s.enter line).quote = s.quote := by
  rw [State.enter]
  split <;> rfl

theorem lexFresh_isLexed {s : State} {line : Line} {before : Text} (h : line.IsAt before)
    (hs : s.quote = none) : IsLexed before line.text (lexFresh s line) := by
  have henter : (s.enter line).quote = none := by rw [State.enter_quote, hs]
  cases hstart : lineStart? line.text with
  | none =>
    rw [lexFresh_of_none hstart]
    exact lexRest_isLexed ((s.enter line).context line) h.cursor henter
  | some found =>
    obtain ⟨kind, raw⟩ := found
    obtain ⟨⟨after, hafter⟩, hne, hmarker⟩ := lineStart?_eq_some hstart
    have hkind : kind ≠ .mappingValue := by
      rcases hmarker with rfl | rfl | rfl <;> nofun
    have hsplit : line.cursor.rest = raw ++ after := hafter.symm
    have hpush : ((s.enter line).push line.indent kind raw).quote = none := by
      rw [State.push_quote, henter]
    have hlexed :=
      lexRest_skip_isLexed ((s.enter line).context line) h.cursor hsplit hpush
    rw [lexFresh_of_some hstart]
    exact IsLexed.token h.cursor hsplit (s.enter line) kind raw hne (fun he => absurd he hkind)
      hlexed

/-- As much of a line as it is indented is blank, and the rest is not. -/
theorem Line.split_indent {line : Line} {n : Nat} (hblank : line.isBlank = false)
    (hn : n ≤ line.indent) :
    (line.text.take n).length = n ∧ (∀ c ∈ line.text.take n, Unicode.isBlank c = true) ∧
      line.text.drop n ≠ [] := by
  obtain ⟨content, hcontent⟩ := List.takeWhile_prefix (l := line.text) (· == ' ')
  have hlength : n ≤ line.text.length := by
    have := congrArg List.length hcontent
    rw [List.length_append] at this
    rw [Line.indent] at hn
    omega
  have htake : ∀ c ∈ line.text.take n, Unicode.isBlank c = true := by
    intro c hc
    rw [← hcontent, List.take_append_of_le_length hn] at hc
    have := List.all_takeWhile (p := (· == ' ')) (l := line.text)
    rw [List.all_eq_true] at this
    rw [beq_iff_eq.1 (this c (List.mem_of_mem_take hc))]
    decide
  refine ⟨List.length_take_of_le hlength, htake, ?_⟩
  intro hdrop
  have hall : line.isBlank = true := by
    rw [Line.isBlank, List.all_eq_true, ← List.take_append_drop n line.text, hdrop, List.append_nil]
    exact htake
  rw [hall] at hblank
  cases hblank

theorem lexBlock_isLexed {s : State} {line : Line} {b : BlockScalar} {before : Text}
    (h : line.IsAt before) (hs : s.quote = none) :
    IsLexed before line.text (lexBlock s line b) := by
  cases hblank : line.isBlank with
  | true =>
    rw [lexBlock_of_isBlank hblank]
    exact IsLexed.blank (by simpa [Line.isBlank] using hblank) hs
  | false =>
    by_cases htakes : b.Takes line.indent
    · obtain ⟨n, hindent, hn⟩ := htakes
      let s₁ : State := { s with block := some { b with contentIndent := some n } }
      let raw := line.text.drop n
      let place := (s₁.context line).place (line.cursor.skip n)
      have hlex : lexBlock s line b = ([s₁.step place .blockContent raw raw],
          s₁.push line.indent .blockContent raw) := lexBlock_of_le hblank hindent hn
      obtain ⟨hlength, hgap, hne⟩ := Line.split_indent hblank hn
      have hsplit : line.cursor.rest = line.text.take n ++ raw :=
        (List.take_append_drop n line.text).symm
      have hat := h.cursor.skip hsplit
      have hrest := Cursor.rest_skip hsplit
      rw [hlength] at hat hrest
      have hs₂ : (s₁.push line.indent .blockContent raw).quote = none := by
        rw [State.push_quote]
        exact hs
      have hnone : (line.cursor.skip n).rest = raw ++ [] := by
        rw [hrest, List.append_nil]
      have hlexed : IsLexed (before ++ line.text.take n) (line.cursor.skip n).rest
          ([s₁.step place .blockContent raw raw], _) :=
        IsLexed.token hat hnone s₁ .blockContent raw hne nofun (IsLexed.blank (by simp) hs₂)
      rw [hrest] at hlexed
      rw [hlex, ← List.take_append_drop n line.text]
      exact IsLexed.ofBlank hgap hlexed
    · rw [lexBlock_of_not_takes hblank htakes]
      exact lexFresh_isLexed h hs

/-- A line that an open quote runs into closes the quote or is held back with it. -/
theorem lexQuoted_isLexed {s : State} {line : Line} {q : OpenQuote} {before : Text}
    (hq : q.IsAt before) (h : line.IsAt (before ++ q.raw ++ ['\n'])) :
    IsLexed before (q.raw ++ ['\n'] ++ line.text) (lexQuoted s line q) := by
  cases hn : quoteLength? q.quote line.text with
  | none =>
    rw [lexQuoted_of_none hn]
    refine ⟨[], ?_, .nil (by simp), ?_⟩
    · simp [State.pending]
    · intro q' hq'
      obtain rfl := Option.some.inj hq'
      obtain ⟨c, rest, hraw, hc⟩ := hq.raw
      rw [List.append_nil]
      exact ⟨hq.offset, hq.position, c, rest ++ '\n' :: line.text, by simp [hraw], hc⟩
  | some n =>
    let s₁ : State := { s with quote := none }
    let kind := TokenKind.scalar (quoteStyle q.quote)
    let raw := q.raw ++ '\n' :: line.text.take n
    obtain ⟨hpos, hle⟩ := quoteLength?_pos hn
    have hsplit : line.cursor.rest = line.text.take n ++ line.text.drop n :=
      (List.take_append_drop n line.text).symm
    have hraw : raw = q.raw ++ ['\n'] ++ line.text.take n := by simp [raw]
    have hs : (s₁.push line.indent kind raw).quote = none := by rw [State.push_quote]
    have hlexed := lexRest_skip_isLexed (s₁.context line) h.cursor hsplit hs
    have hbefore : before ++ q.raw ++ ['\n'] ++ line.text.take n = before ++ raw := by
      rw [hraw]
      simp only [List.append_assoc]
    rw [hbefore, List.length_take_of_le hle] at hlexed
    have htext : q.raw ++ ['\n'] ++ line.text = raw ++ line.text.drop n := by
      rw [hraw, List.append_assoc _ (line.text.take n), List.take_append_drop]
    rw [lexQuoted_of_some hn, htext]
    -- The closing quote ends the token, so no line feed does.
    have hproper : (s₁.step q.place kind raw (unquote q.quote raw)).token.IsProper := by
      refine ⟨by simp [State.step, raw], ?_, nofun⟩
      intro hlast
      have hne : line.text.take n ≠ [] := by
        rw [← List.length_pos_iff, List.length_take_of_le hle]
        exact hpos
      have hlast' : (q.raw ++ ['\n'] ++ line.text.take n).getLast? = some '\n' := hraw ▸ hlast
      rw [List.getLast?_append, List.getLast?_eq_some_getLast hne, Option.some_or,
        Option.some.injEq] at hlast'
      exact h.newline_not_mem (List.mem_of_mem_take (hlast' ▸ List.getLast_mem hne))
    exact IsLexed.cons hproper ⟨hq.offset, hq.position⟩ hlexed

/-- A line, lexed after what was held back before it. The separator is the line feed before the
    line; the first line has none. -/
theorem lexLine_isLexed {s : State} {line : Line} {before separator : Text}
    (hseparator : separator = ['\n'] ∨ separator = [] ∧ s.quote = none)
    (hq : ∀ q, s.quote = some q → q.IsAt before)
    (h : line.IsAt (before ++ s.pending ++ separator)) :
    IsLexed before (s.pending ++ separator ++ line.text) (lexLine s line) := by
  cases hs : s.quote with
  | some q =>
      rw [State.pending_of_some hs] at h ⊢
      rw [lexLine_eq_lexQuoted hs]
      rcases hseparator with rfl | ⟨-, hnone⟩
      · exact lexQuoted_isLexed (hq q hs) h
      · rw [hs] at hnone
        cases hnone
  | none =>
      rw [State.pending_of_none hs, List.append_nil] at h
      rw [State.pending_of_none hs, List.nil_append]
      refine IsLexed.ofBlank ?_ ?_
      · rcases hseparator with rfl | ⟨rfl, -⟩
        · simp; decide
        · simp
      · cases hblock : s.block with
        | none =>
          rw [lexLine_of_none hs hblock]
          exact lexFresh_isLexed h hs
        | some b =>
          rw [lexLine_eq_lexBlock hs hblock]
          exact lexBlock_isLexed h hs

/-! ## Texts -/

/-- A text is what is left of it without the line feeds at its end, and those. -/
theorem split_lineFeeds (t : Text) :
    ∃ gap, t = (t.reverse.dropWhile (· == '\n')).reverse ++ gap ∧ (∀ c ∈ gap, c = '\n') ∧
      (t.reverse.dropWhile (· == '\n')).reverse.getLast? ≠ some '\n' := by
  refine ⟨(t.reverse.takeWhile (· == '\n')).reverse, ?_, ?_, ?_⟩
  · rw [← List.reverse_append, List.takeWhile_append_dropWhile, List.reverse_reverse]
  · intro c hc
    have hall := List.all_takeWhile (p := (· == '\n')) (l := t.reverse)
    rw [List.all_eq_true] at hall
    exact beq_iff_eq.1 (hall c (List.mem_reverse.1 hc))
  · intro hlast
    have hnot := List.head?_dropWhile_not (· == '\n') t.reverse
    rw [List.getLast?_reverse] at hlast
    rw [hlast] at hnot
    cases hnot

/-- A quote that is never closed becomes a token, without the line feeds at its end. -/
theorem unclosed_tiles {s : State} {before : Text}
    (hq : ∀ q, s.quote = some q → q.IsAt before) :
    Tiles before s.pending (s.unclosed.map (·.token)) := by
  rw [State.unclosed]
  cases hs : s.quote with
  | none =>
      rw [State.pending_of_none hs]
      exact .nil (by simp)
  | some q =>
      rw [State.pending_of_some hs]
      obtain ⟨c, rest, hcons, hc⟩ := (hq q hs).raw
      obtain ⟨gap, hsplit, hgap, hlast⟩ := split_lineFeeds q.raw
      dsimp only
      generalize (q.raw.reverse.dropWhile (· == '\n')).reverse = raw at hsplit hlast
      -- The opening quote is left, whatever else is taken off.
      have hne : raw ≠ [] := by
        intro hraw
        rw [hraw, List.nil_append, hcons] at hsplit
        exact hc (hgap c (hsplit ▸ List.mem_cons_self ..))
      have hblank : ∀ d ∈ gap, isBlank d = true := by
        intro d hd
        rw [hgap d hd]
        decide
      have hproper : Token.IsProper ⟨.invalid, raw, raw, .quotedScalar, q.place⟩ :=
        ⟨hne, hlast, nofun⟩
      have hat : Token.IsAt ⟨.invalid, raw, raw, .quotedScalar, q.place⟩ before :=
        ⟨(hq q hs).offset, (hq q hs).position⟩
      rw [hsplit]
      exact (Tiles.single hproper hat).append (.nil hblank)

/-- Lines after a first one, lexed after what was held back before them. -/
theorem lexLines_tiles {s : State} {number offset : Nat} {before : Text} {lines : List Text}
    (hq : ∀ q, s.quote = some q → q.IsAt before)
    (hposition : positionAfter (before ++ s.pending ++ ['\n']) = .lineStart number)
    (hoffset : offset = byteLength (before ++ s.pending ++ ['\n']))
    (hlines : ∀ line ∈ lines, '\n' ∉ line) :
    Tiles before (s.pending ++ lines.flatMap ('\n' :: ·))
      ((lexLines s number offset lines).map (·.token)) := by
  induction lines generalizing s number offset before with
  | nil =>
      rw [List.flatMap_nil, List.append_nil]
      exact unclosed_tiles hq
  | cons text rest ih =>
      rw [List.forall_mem_cons] at hlines
      obtain ⟨htext, hrest⟩ := hlines
      have hat : Line.IsAt ⟨number, offset, text⟩ (before ++ s.pending ++ ['\n']) :=
        ⟨hoffset, hposition, htext⟩
      obtain ⟨done, hdone, htiles, hquote⟩ := lexLine_isLexed (Or.inl rfl) hq hat
      rw [lexLines, List.map_append]
      generalize lexLine s ⟨number, offset, text⟩ = result at hdone htiles hquote
      dsimp only at hdone
      -- What is held back after the line lies right before the next line feed.
      have hbefore : before ++ done ++ result.2.pending =
          before ++ s.pending ++ ['\n'] ++ text := by
        rw [List.append_assoc, ← hdone]
        simp only [List.append_assoc]
      have hsplit : s.pending ++ (text :: rest).flatMap ('\n' :: ·) =
          done ++ (result.2.pending ++ rest.flatMap ('\n' :: ·)) := by
        rw [← List.append_assoc done, ← hdone]
        simp
      rw [hsplit]
      refine htiles.append (ih hquote ?_ ?_ hrest)
      · rw [hbefore, Text.positionAfter_concat, if_pos rfl, Text.positionAfter_append htext,
          hposition]
        rfl
      · rw [hbefore, hoffset]
        simp only [Text.byteLength_append, Text.byteLength_cons, Text.byteLength_nil]
        rfl

/-- The tokens of a text tile it. -/
theorem tokenize_tiles (t : Text) : Tiles [] t (tokenize t) := by
  obtain ⟨line, lines, ht⟩ := Text.exists_splitLines_cons t
  have hnew : ∀ l ∈ line :: lines, '\n' ∉ l := by
    intro l hl
    exact Text.newline_not_mem_of_mem_splitLines (ht ▸ hl)
  rw [List.forall_mem_cons] at hnew
  have hat : Line.IsAt ⟨1, 0, line⟩ ([] ++ State.start.pending ++ []) :=
    ⟨rfl, rfl, hnew.1⟩
  have hstart : ∀ q, State.start.quote = some q → q.IsAt [] := by
    intro q hq
    cases hq
  obtain ⟨done, hdone, htiles, hquote⟩ := lexLine_isLexed (Or.inr ⟨rfl, rfl⟩) hstart hat
  have hjoin := Text.joinLines_splitLines t
  rw [ht, Text.joinLines_cons] at hjoin
  rw [tokenize, steps, ht, lexLines, List.map_append, ← hjoin]
  generalize lexLine State.start ⟨1, 0, line⟩ = result at hdone htiles hquote
  have hline : line = done ++ result.2.pending := hdone
  have hsplit : line ++ lines.flatMap ('\n' :: ·) =
      done ++ (result.2.pending ++ lines.flatMap ('\n' :: ·)) := by
    rw [← List.append_assoc, ← hline]
  have hposition : positionAfter (line ++ ['\n']) = .lineStart 2 := by
    rw [Text.positionAfter_concat, if_pos rfl, ← List.nil_append line,
      Text.positionAfter_append hnew.1]
    rfl
  rw [hsplit]
  refine htiles.append (lexLines_tiles hquote ?_ ?_ hnew.2)
  · rw [List.nil_append, ← hline, hposition]
  · rw [List.nil_append, ← hline]
    simp only [Text.byteLength_append, Text.byteLength_cons, Text.byteLength_nil]
    rw [Nat.zero_add]
    rfl

/-- Lexing loses nothing: the tokens of a text, at the places that they name, cover all of it but
    blanks. -/
theorem tokenize_isCover (t : Text) : IsCover t (tokenize t) := (tokenize_tiles t).isCover

end YamlListing.Yaml.Lexer

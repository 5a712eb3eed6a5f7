import YamlListing.Proofs.Yaml.States

set_option autoImplicit false

/-! # Quoted scalars

Where the lexer finds a quote, it looks for the one that closes it and reads what is between them.
Main statement: every quoted scalar among the tokens of a text stands in its quotes, and its value
is read from what they hold (`exists_content_of_mem_tokenize`). On one line that is the content
without the blanks at its end, with its escapes or doubled quotes read (`unquote_of_not_mem`). -/

namespace YamlListing.Yaml

open Text (splitLines)

/-! ## Reading the content -/

theorem inner_quoted (quote : Char) (content : Text) :
    inner quote (quote :: content ++ [quote]) = content := by
  rw [List.cons_append, inner, if_pos rfl, Text.dropLast?_concat, Option.getD_some]

/-- Without a line break only the blanks at the end are dropped. -/
theorem fold_of_not_mem {t : Text} (h : '\n' ∉ t) : fold t = Text.trimEnd t := by
  rw [fold, Text.splitLines_of_not_mem h]
  rfl

theorem undouble_cons {c : Char} (h : c ≠ '\'') (t : Text) :
    undouble (c :: t) = c :: undouble t := by
  rw [undouble]
  rintro rest rfl
  exact absurd rfl h

theorem unescape_cons_of_ne {c : Char} (h : c ≠ '\\') (t : Text) :
    unescape (c :: t) = c :: unescape t := by
  rw [unescape]
  · rintro rfl
    exact absurd rfl h
  · rintro letter rest rfl
    exact absurd rfl h

theorem unquote_of_not_mem (quote : Char) {content : Text} (h : '\n' ∉ content) :
    unquote quote (quote :: content ++ [quote]) =
      if quote = '\'' then undouble (Text.trimEnd content)
      else unescape (Text.trimEnd content) := by
  simp only [unquote, inner_quoted, fold_of_not_mem h]

namespace Lexer

/-! ## Finding the quotes -/

theorem quoteStyle_inj {c d : Char} (hc : isQuote c = true) (hd : isQuote d = true)
    (h : quoteStyle c = quoteStyle d) : c = d := by
  rcases isQuote_iff.1 hc with rfl | rfl <;> rcases isQuote_iff.1 hd with rfl | rfl <;>
    first | rfl | cases h

/-- A line does not begin with a scalar as it begins with a directive or a marker. -/
theorem ne_scalar_of_lineStart? {t raw : Text} {kind : TokenKind}
    (h : lineStart? t = some (kind, raw)) (style : ScalarStyle) : kind ≠ .scalar style := by
  rintro rfl
  unfold lineStart? at h
  split at h
  · cases h
  · split at h <;> cases h
  · split at h <;> cases h
  · cases h

/-- A quoted scalar ends with its closing quote. -/
theorem exists_take_of_quoteLength? {quote : Char} {t : Text} {n : Nat}
    (h : quoteLength? quote t = some n) : ∃ content, t.take n = content ++ [quote] := by
  induction t using quoteLength?.induct quote generalizing n with
  | case1 => simp [quoteLength?] at h
  | case2 =>
    rw [quoteLength?, if_pos rfl] at h
    obtain rfl := Option.some.inj h
    exact ⟨[], rfl⟩
  | case3 c hc => simp [quoteLength?, hc] at h
  | case4 c d rest hcd ih =>
    rw [quoteLength?, if_pos hcd, Option.map_eq_some_iff] at h
    obtain ⟨m, hm, rfl⟩ := h
    obtain ⟨content, hcontent⟩ := ih hm
    exact ⟨c :: d :: content, by rw [List.take_succ_cons, List.take_succ_cons, hcontent]; rfl⟩
  | case5 d rest hcd =>
    rw [quoteLength?, if_neg hcd, if_pos rfl] at h
    obtain rfl := Option.some.inj h
    exact ⟨[], rfl⟩
  | case6 c d rest hcd hc ih =>
    rw [quoteLength?, if_neg hcd, if_neg hc, Option.map_eq_some_iff] at h
    obtain ⟨m, hm, rfl⟩ := h
    obtain ⟨content, hcontent⟩ := ih hm
    exact ⟨c :: content, by rw [List.take_succ_cons, hcontent]; rfl⟩

section round

variable {flow : Nat} {afterKey : Bool} {before : Option Char} {c quote : Char} {rest : Text}

/-- At a quote the lexer looks for the one that closes it. -/
theorem round_of_isQuote (h : isQuote c = true) :
    round flow afterKey before c rest = match quoteLength? c rest with
      | some n => .token (.scalar (quoteStyle c)) (c :: rest.take n) (unquote c (c :: rest.take n))
      | none => .openQuote c := by
  rcases isQuote_iff.1 h with rfl | rfl <;> rfl

/-- Nothing else begins a quoted scalar. -/
theorem Round.isQuote_of_token {style : ScalarStyle} {raw value : Text} (hstyle : style ≠ .plain)
    (h : round flow afterKey before c rest = .token (.scalar style) raw value) :
    isQuote c = true := by
  cases Round.finds h with
  | quoted hc => exact hc
  | plain => exact absurd rfl hstyle

theorem Round.openQuote_eq (h : round flow afterKey before c rest = .openQuote quote) :
    quote = c ∧ isQuote c = true := by
  cases Round.finds h with
  | openQuote hc => exact ⟨rfl, hc⟩

end round

/-! ## Tokens -/

/-- Whether a token, if it is a quoted scalar, stands in its quotes and is read from what they
    hold. -/
def IsRead (kind : TokenKind) (raw value : Text) : Prop :=
  ∀ quote, isQuote quote = true → kind = .scalar (quoteStyle quote) →
    ∃ content, raw = quote :: content ++ [quote] ∧ value = unquote quote raw

/-- Whether the text of an open quote begins with the quote. -/
structure OpenQuote.IsBegun (q : OpenQuote) : Prop where
  isQuote : isQuote q.quote = true
  raw : ∃ rest, q.raw = q.quote :: rest

/-- Whether the quote that is open between two lines, if any, has its text from the quote on. -/
def State.IsBegun (s : State) : Prop := ∀ q, s.quote = some q → q.IsBegun

/-- Whether all quoted scalars of a stretch stand in their quotes, the one that is left open after
    it included. -/
structure AreRead (result : List Step × State) : Prop where
  tokens : ∀ step ∈ result.1, IsRead step.token.kind step.token.raw step.token.value
  state : result.2.IsBegun

theorem Round.isRead {flow : Nat} {afterKey : Bool} {before : Option Char} {c : Char}
    {rest raw value : Text} {kind : TokenKind}
    (h : round flow afterKey before c rest = .token kind raw value) : IsRead kind raw value := by
  rintro quote hquote rfl
  have hc := Round.isQuote_of_token (quoteStyle_ne_plain quote) h
  rw [round_of_isQuote hc] at h
  split at h
  · next n hn =>
    simp only [Round.token.injEq, TokenKind.scalar.injEq] at h
    obtain ⟨hstyle, rfl, rfl⟩ := h
    obtain rfl := quoteStyle_inj hc hquote hstyle
    obtain ⟨content, hcontent⟩ := exists_take_of_quoteLength? hn
    exact ⟨content, by rw [hcontent]; rfl, rfl⟩
  · cases h

section lines

variable {s : State} {line : Line} {kind : TokenKind} {raw value : Text}

theorem IsRead.of_ne (h : ∀ style, kind ≠ .scalar style) : IsRead kind raw value :=
  fun quote _ hkind => absurd hkind (h (quoteStyle quote))

theorem AreRead.nil (h : s.IsBegun) : AreRead ([], s) :=
  ⟨List.forall_mem_nil _, h⟩

theorem AreRead.cons {step : Step} {result : List Step × State}
    (h : IsRead step.token.kind step.token.raw step.token.value) (hresult : AreRead result) :
    AreRead (step :: result.1, result.2) :=
  ⟨List.forall_mem_cons.2 ⟨h, hresult.tokens⟩, hresult.state⟩

theorem State.push_isBegun (h : s.IsBegun) (indent : Nat) (kind : TokenKind) (raw : Text) :
    (s.push indent kind raw).IsBegun := by
  rw [State.IsBegun, State.push_quote]
  exact h

theorem lexRest_areRead (ctx : LineContext) (h : s.IsBegun) (cur : Cursor) :
    AreRead (lexRest ctx s cur) := by
  induction s, cur using lexRest.induct ctx with
  | case1 s cur hrest =>
    rw [lexRest_nil hrest]
    exact .nil h
  | case2 s cur c rest hrest hround ih =>
    rw [lexRest_cons hrest, hround]
    exact ih h
  | case3 s cur c rest hrest kind raw value hround steps s' hresult ih =>
    rw [lexRest_cons hrest, hround]
    exact .cons (Round.isRead hround) (ih (State.push_isBegun h ctx.indent kind raw))
  | case4 s cur c rest hrest raw value hround =>
    rw [lexRest_cons hrest, hround]
    have hread : IsRead .comment raw value := .of_ne (by rintro style ⟨⟩)
    exact .cons hread (.nil (State.push_isBegun h ctx.indent .comment raw))
  | case5 s cur c rest hrest quote hround =>
    rw [lexRest_cons hrest, hround]
    obtain ⟨rfl, hquote⟩ := Round.openQuote_eq hround
    refine .nil fun q hq => ?_
    obtain rfl := Option.some.inj hq
    exact ⟨hquote, rest, rfl⟩

theorem State.enter_isBegun (h : s.IsBegun) (line : Line) : (s.enter line).IsBegun := by
  rw [State.enter]
  split <;> exact h

theorem lexFresh_areRead (h : s.IsBegun) (line : Line) : AreRead (lexFresh s line) := by
  have henter := State.enter_isBegun h line
  cases hstart : lineStart? line.text with
  | none =>
    rw [lexFresh_of_none hstart]
    exact lexRest_areRead _ henter _
  | some found =>
    obtain ⟨kind, raw⟩ := found
    rw [lexFresh_of_some hstart]
    have hread : IsRead kind raw raw := .of_ne (ne_scalar_of_lineStart? hstart)
    exact .cons hread (lexRest_areRead _ (State.push_isBegun henter _ _ _) _)

/-- A quote that was left open is closed or left open further. -/
theorem lexQuoted_areRead {q : OpenQuote} (hq : q.IsBegun) (s : State) (line : Line) :
    AreRead (lexQuoted s line q) := by
  obtain ⟨hquote, rest, hraw⟩ := hq
  cases hn : quoteLength? q.quote line.text with
  | none =>
    rw [lexQuoted_of_none hn]
    refine .nil fun q' hq' => ?_
    obtain rfl := Option.some.inj hq'
    exact ⟨hquote, rest ++ '\n' :: line.text, by rw [hraw]; rfl⟩
  | some n =>
    rw [lexQuoted_of_some hn]
    obtain ⟨content, hcontent⟩ := exists_take_of_quoteLength? hn
    have hclosed : { s with quote := none : State }.IsBegun := by
      rintro q' ⟨⟩
    refine .cons ?_ (lexRest_areRead _ (State.push_isBegun hclosed _ _ _) _)
    intro quote hquote' hkind
    obtain rfl := quoteStyle_inj hquote hquote' (TokenKind.scalar.inj hkind)
    refine ⟨rest ++ '\n' :: content, ?_, rfl⟩
    simp only [State.step, hraw, hcontent, List.cons_append, List.append_assoc]

theorem lexBlock_areRead (h : s.IsBegun) (line : Line) (b : BlockScalar) :
    AreRead (lexBlock s line b) := by
  cases hblank : line.isBlank with
  | true =>
    rw [lexBlock_of_isBlank hblank]
    exact .nil h
  | false =>
    by_cases htakes : b.Takes line.indent
    · obtain ⟨n, hindent, hle⟩ := htakes
      let s' : State := { s with block := some { b with contentIndent := some n } }
      let raw := line.text.drop n
      have hread : IsRead .blockContent raw raw := .of_ne (by rintro style ⟨⟩)
      have hs' : s'.IsBegun := h
      rw [lexBlock_of_le hblank hindent hle]
      exact .cons hread (.nil (State.push_isBegun hs' line.indent .blockContent raw))
    · rw [lexBlock_of_not_takes hblank htakes]
      exact lexFresh_areRead (s := { s with block := none }) h line

theorem lexLine_areRead (h : s.IsBegun) (line : Line) : AreRead (lexLine s line) := by
  cases hquote : s.quote with
  | some q =>
    rw [lexLine_eq_lexQuoted hquote]
    exact lexQuoted_areRead (h q hquote) s line
  | none =>
    cases hblock : s.block with
    | none =>
      rw [lexLine_of_none hquote hblock]
      exact lexFresh_areRead h line
    | some b =>
      rw [lexLine_eq_lexBlock hquote hblock]
      exact lexBlock_areRead h line b

theorem lexLines_isRead (h : s.IsBegun) (number offset : Nat)
    (lines : List Text) : ∀ step ∈ lexLines s number offset lines,
      IsRead step.token.kind step.token.raw step.token.value := by
  induction lines generalizing s number offset with
  | nil =>
    intro step hstep
    rw [lexLines, State.unclosed] at hstep
    cases hs : s.quote with
    | none =>
      rw [hs] at hstep
      cases hstep
    | some q =>
      rw [hs] at hstep
      obtain rfl := List.mem_singleton.1 hstep
      exact .of_ne (by rintro style ⟨⟩)
  | cons text lines ih =>
    obtain ⟨htokens, hquote⟩ := lexLine_areRead h ⟨number, offset, text⟩
    rw [lexLines_cons]
    exact List.forall_mem_append.2 ⟨htokens, ih hquote _ _⟩

/-- Every quoted scalar of a text stands in its quotes and is read from what they hold. -/
theorem exists_content_of_mem_tokenize {t : Text} {token : Token} {quote : Char}
    (h : token ∈ tokenize t) (hquote : isQuote quote = true)
    (hkind : token.kind = .scalar (quoteStyle quote)) :
    ∃ content, token.raw = quote :: content ++ [quote] ∧ token.value = unquote quote token.raw := by
  obtain ⟨step, hstep, rfl⟩ := List.mem_map.1 h
  exact lexLines_isRead (s := .start) nofun 1 0 (splitLines t) step hstep quote hquote hkind

end lines

/-! ## A scalar by itself -/

section alone

variable {quote : Char} {t : Text}

theorem lineStart?_of_isQuote (h : isQuote quote = true) (t : Text) :
    lineStart? (quote :: t) = none := by
  rcases isQuote_iff.1 h with rfl | rfl <;> rfl

/-- A line that is not indented changes nothing at the start. -/
theorem State.enter_start {line : Line} (h : line.indent = 0) : State.start.enter line = .start := by
  rw [State.enter, h]
  split <;> rfl

/-- A quoted scalar in front of a line is its first token. -/
theorem lexFresh_start (h : isQuote quote = true) (ht : quoteLength? quote t = some t.length)
    (number offset : Nat) :
    let kind := TokenKind.scalar (quoteStyle quote)
    lexFresh .start ⟨number, offset, quote :: t⟩ =
      ([State.start.step ⟨number, 1, offset, 0, 0⟩ kind (quote :: t) (unquote quote (quote :: t))],
        State.start.push 0 kind (quote :: t)) := by
  intro kind
  let line : Line := ⟨number, offset, quote :: t⟩
  have hindent : line.indent = 0 := by
    rcases isQuote_iff.1 h with rfl | rfl <;> rfl
  have hcontext : State.start.context line = ⟨number, 0, 0⟩ := by
    rw [State.context, hindent]
    rfl
  have hstart : lineStart? line.text = none := lineStart?_of_isQuote h t
  have hcursor : line.cursor.rest = quote :: t := rfl
  have hrest : (line.cursor.skip (quote :: t).length).rest = [] := List.drop_length
  rw [lexFresh_of_none hstart, State.enter_start hindent, hcontext, lexRest_cons hcursor,
    round_of_isQuote h, ht]
  dsimp only
  rw [List.take_length, lexRest_nil hrest]
  rfl

/-- A text that holds a quoted scalar and nothing else is that one token. -/
theorem tokenize_of_quoteLength? (h : isQuote quote = true) (hnewline : '\n' ∉ t)
    (ht : quoteLength? quote t = some t.length) :
    tokenize (quote :: t) = [⟨.scalar (quoteStyle quote), quote :: t, unquote quote (quote :: t),
      (TokenKind.scalar (quoteStyle quote)).indicator, ⟨1, 1, 0, 0, 0⟩⟩] := by
  have hlines : splitLines (quote :: t) = [quote :: t] := by
    refine Text.splitLines_of_not_mem fun hmem => ?_
    rcases List.mem_cons.1 hmem with rfl | hmem
    · cases h
    · exact hnewline hmem
  have hline : lexLine .start ⟨1, 0, quote :: t⟩ = _ := lexFresh_start h ht 1 0
  rw [tokenize, steps, hlines, lexLines_cons, hline]
  dsimp only
  rw [lexLines, State.unclosed_of_none (State.push_quote _ _ _ _)]
  rfl

end alone

end Lexer

end YamlListing.Yaml

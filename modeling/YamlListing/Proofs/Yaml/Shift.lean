import Mathlib.Data.List.Forall2
import Mathlib.Tactic.Convert
import YamlListing.Proofs.Yaml.States

set_option autoImplicit false

/-! # Lexing further down

The lexer looks at line numbers and byte offsets only to write them down, so lines that stand
further down in a text give the same tokens, further down (`lexLines_isMoved`). It need not start
from the same state: what it remembers of earlier lines counts only as far as `State.IsMoved` says.
If the indentations around the lines differ, so do the levels of the tokens and nothing else. -/

namespace YamlListing.Yaml

open Text (byteLength)

/-- How much further down lines are, and whether they are nested alike. -/
structure Shift where
  lines : Nat
  bytes : Nat
  levels : Prop

/-! ## Tokens -/

/-- Whether a place is another one, moved. -/
structure Place.IsMoved (d : Shift) (p q : Place) : Prop where
  line : q.line = p.line + d.lines
  column : q.column = p.column
  offset : q.offset = p.offset + d.bytes
  indent : q.indent = p.indent
  level : d.levels → q.level = p.level

/-- Whether a token is another one, moved. -/
structure Token.IsMoved (d : Shift) (t u : Token) : Prop where
  kind : u.kind = t.kind
  raw : u.raw = t.raw
  value : u.value = t.value
  indicator : u.indicator = t.indicator
  place : t.place.IsMoved d u.place

namespace Lexer

/-- Whether a step is another one, moved. -/
structure Step.IsMoved (d : Shift) (a b : Step) : Prop where
  token : a.token.IsMoved d b.token
  flow : b.flow = a.flow

/-! ## States -/

structure OpenQuote.IsMoved (d : Shift) (p q : OpenQuote) : Prop where
  quote : q.quote = p.quote
  raw : q.raw = p.raw
  place : p.place.IsMoved d q.place

/-- Whether the lexer goes on from a state as it goes on from another one further up. -/
structure State.IsMoved (d : Shift) (s t : State) : Prop where
  flow : t.flow = s.flow
  block : t.block = s.block
  quote : Option.Rel (OpenQuote.IsMoved d) s.quote t.quote
  indents : d.levels → t.indents = s.indents
  isAfterKey : t.isAfterKey = s.isAfterKey

structure Line.IsMoved (d : Shift) (l m : Line) : Prop where
  number : m.number = l.number + d.lines
  offset : m.offset = l.offset + d.bytes
  text : m.text = l.text

structure LineContext.IsMoved (d : Shift) (c e : LineContext) : Prop where
  number : e.number = c.number + d.lines
  indent : e.indent = c.indent
  level : d.levels → e.level = c.level

structure Cursor.IsMoved (d : Shift) (c e : Cursor) : Prop where
  before : e.before = c.before
  column : e.column = c.column
  offset : e.offset = c.offset + d.bytes
  rest : e.rest = c.rest

/-- Whether the tokens of a stretch and the state after it are others, moved. -/
structure AreMoved (d : Shift) (r r' : List Step × State) : Prop where
  steps : List.Forall₂ (Step.IsMoved d) r.1 r'.1
  state : r.2.IsMoved d r'.2

variable {d : Shift} {s t : State} {line line' : Line} {ctx ctx' : LineContext}
  {cur cur' : Cursor}

theorem Line.IsMoved.cursor (h : line.IsMoved d line') : line.cursor.IsMoved d line'.cursor :=
  ⟨rfl, rfl, h.offset, h.text⟩

theorem Line.IsMoved.indent (h : line.IsMoved d line') : line'.indent = line.indent := by
  rw [Line.indent, Line.indent, h.text]

theorem Line.IsMoved.isBlank (h : line.IsMoved d line') : line'.isBlank = line.isBlank := by
  rw [Line.isBlank, Line.isBlank, h.text]

theorem Line.IsMoved.isComment (h : line.IsMoved d line') :
    line'.isComment = line.isComment := by
  rw [Line.isComment, Line.isComment, h.text]

theorem LineContext.IsMoved.place (h : ctx.IsMoved d ctx') (hcur : cur.IsMoved d cur') :
    (ctx.place cur).IsMoved d (ctx'.place cur') :=
  ⟨h.number, hcur.column, hcur.offset, h.indent, h.level⟩

theorem Cursor.IsMoved.skip (h : cur.IsMoved d cur') (n : Nat) :
    (cur.skip n).IsMoved d (cur'.skip n) := by
  obtain ⟨hbefore, hcolumn, hoffset, hrest⟩ := h
  refine ⟨?_, ?_, ?_, ?_⟩ <;> simp only [Cursor.skip, hrest]
  · rw [hbefore]
  · rw [hcolumn]
  · rw [hoffset, Nat.add_right_comm]

namespace State.IsMoved

theorem push (h : s.IsMoved d t) (indent : Nat) (kind : TokenKind) (raw : Text) :
    (s.push indent kind raw).IsMoved d (t.push indent kind raw) := by
  obtain ⟨hflow, hblock, hquote, hindents, -⟩ := h
  cases kind with
  | documentHeader => exact ⟨rfl, rfl, hquote, fun _ => rfl, rfl⟩
  | documentEnd => exact ⟨rfl, rfl, hquote, hindents, rfl⟩
  | blockLiteral | blockFolded => exact ⟨hflow, rfl, hquote, hindents, rfl⟩
  | sequenceStart | mappingStart =>
    exact ⟨congrArg (· + 1) hflow, hblock, hquote, hindents, rfl⟩
  | sequenceEnd | mappingEnd | invalid =>
    exact ⟨congrArg (· - 1) hflow, hblock, hquote, hindents, rfl⟩
  | _ => exact ⟨hflow, hblock, hquote, hindents, rfl⟩

theorem step (h : s.IsMoved d t) {p q : Place} (hplace : p.IsMoved d q) (kind : TokenKind)
    (raw value : Text) : (s.step p kind raw value).IsMoved d (t.step q kind raw value) :=
  ⟨⟨rfl, rfl, rfl, rfl, hplace⟩, by
    rw [State.step, State.step, hplace.indent, (h.push p.indent kind raw).flow]⟩

theorem level (h : s.IsMoved d t) (hd : d.levels) : t.level = s.level := by
  rw [State.level, State.level, h.indents hd]

theorem context (h : s.IsMoved d t) (hline : line.IsMoved d line') :
    (s.context line).IsMoved d (t.context line') := by
  rw [State.context, State.context, hline.indent]
  exact ⟨hline.number, rfl, h.level⟩

theorem withBlock (h : s.IsMoved d t) (block : Option BlockScalar) :
    IsMoved d { s with block := block } { t with block := block } :=
  ⟨h.flow, rfl, h.quote, h.indents, h.isAfterKey⟩

theorem withQuote (h : s.IsMoved d t) {q q' : Option OpenQuote}
    (hq : Option.Rel (OpenQuote.IsMoved d) q q') :
    IsMoved d { s with quote := q } { t with quote := q' } :=
  ⟨h.flow, h.block, hq, h.indents, h.isAfterKey⟩

theorem enter (h : s.IsMoved d t) (hline : line.IsMoved d line') :
    (s.enter line).IsMoved d (t.enter line') := by
  rw [State.enter, State.enter, h.flow, hline.isBlank, hline.isComment, hline.indent]
  split
  · exact ⟨rfl, h.block, h.quote, fun hd => by rw [h.indents hd], h.isAfterKey⟩
  · exact h

end State.IsMoved

/-! ## Lines -/

theorem AreMoved.cons {a b : Step} {r r' : List Step × State} (h : a.IsMoved d b)
    (hr : AreMoved d r r') : AreMoved d (a :: r.1, r.2) (b :: r'.1, r'.2) :=
  ⟨.cons h hr.steps, hr.state⟩

theorem State.IsMoved.round (h : s.IsMoved d t) (hcur : cur.IsMoved d cur') (c : Char)
    (rest : Text) : Lexer.round t.flow t.isAfterKey cur'.before c rest =
      Lexer.round s.flow s.isAfterKey cur.before c rest := by
  rw [h.flow, h.isAfterKey, hcur.before]

theorem lexRest_isMoved (hctx : ctx.IsMoved d ctx') (h : s.IsMoved d t)
    (hcur : cur.IsMoved d cur') : AreMoved d (lexRest ctx s cur) (lexRest ctx' t cur') := by
  -- Along the loop on the line further up; the other makes the same rounds.
  induction s, cur using lexRest.induct ctx generalizing t cur' with
  | case1 s cur hrest =>
    rw [lexRest_nil hrest, lexRest_nil (hcur.rest.trans hrest)]
    exact ⟨.nil, h⟩
  | case2 s cur c rest hrest hround ih =>
    rw [lexRest_cons hrest, lexRest_cons (hcur.rest.trans hrest), h.round hcur, hround]
    exact ih h (hcur.skip 1)
  | case3 s cur c rest hrest kind raw value hround steps s' hresult ih =>
    rw [lexRest_cons hrest, lexRest_cons (hcur.rest.trans hrest), h.round hcur, hround,
      hctx.indent]
    exact AreMoved.cons (h.step (hctx.place hcur) kind raw value)
      (ih (h.push ctx.indent kind raw) (hcur.skip raw.length))
  | case4 s cur c rest hrest raw value hround =>
    rw [lexRest_cons hrest, lexRest_cons (hcur.rest.trans hrest), h.round hcur, hround,
      hctx.indent]
    exact ⟨.cons (h.step (hctx.place hcur) .comment raw value) .nil,
      h.push ctx.indent .comment raw⟩
  | case5 s cur c rest hrest quote hround =>
    rw [lexRest_cons hrest, lexRest_cons (hcur.rest.trans hrest), h.round hcur, hround]
    exact ⟨.nil, h.withQuote (.some ⟨rfl, rfl, hctx.place hcur⟩)⟩

theorem lexFresh_isMoved (h : s.IsMoved d t) (hline : line.IsMoved d line') :
    AreMoved d (lexFresh s line) (lexFresh t line') := by
  have henter := h.enter hline
  cases hstart : lineStart? line.text with
  | none =>
    rw [lexFresh_of_none hstart, lexFresh_of_none (hline.text ▸ hstart)]
    exact lexRest_isMoved (henter.context hline) henter hline.cursor
  | some found =>
    obtain ⟨kind, raw⟩ := found
    rw [lexFresh_of_some hstart, lexFresh_of_some (hline.text ▸ hstart), hline.indent]
    have hcontext := henter.context hline
    exact AreMoved.cons (henter.step (hcontext.place hline.cursor) kind raw raw)
      (lexRest_isMoved hcontext (henter.push _ kind raw) (hline.cursor.skip _))

theorem lexQuoted_isMoved (h : s.IsMoved d t) (hline : line.IsMoved d line') {q q' : OpenQuote}
    (hq : q.IsMoved d q') : AreMoved d (lexQuoted s line q) (lexQuoted t line' q') := by
  obtain ⟨quote, raw, p⟩ := q
  obtain ⟨quote', raw', p'⟩ := q'
  obtain ⟨rfl, rfl, hplace⟩ : quote' = quote ∧ raw' = raw ∧ p.IsMoved d p' :=
    ⟨hq.quote, hq.raw, hq.place⟩
  cases hn : quoteLength? quote' line.text with
  | none =>
    rw [lexQuoted_of_none hn, lexQuoted_of_none (hline.text ▸ hn), hline.text]
    exact ⟨.nil, h.withQuote (.some ⟨rfl, rfl, hplace⟩)⟩
  | some n =>
    have hclosed := h.withQuote .none
    rw [lexQuoted_of_some hn, lexQuoted_of_some (hline.text ▸ hn), hline.text, hline.indent]
    exact AreMoved.cons (hclosed.step hplace _ _ _) (lexRest_isMoved
      (hclosed.context hline) (hclosed.push _ _ _) (hline.cursor.skip _))

theorem lexBlock_isMoved (h : s.IsMoved d t) (hline : line.IsMoved d line') (b : BlockScalar) :
    AreMoved d (lexBlock s line b) (lexBlock t line' b) := by
  cases hblank : line.isBlank with
  | true =>
    rw [lexBlock_of_isBlank hblank, lexBlock_of_isBlank (hline.isBlank.trans hblank)]
    exact ⟨.nil, h⟩
  | false =>
    have hblank' : line'.isBlank = false := hline.isBlank.trans hblank
    by_cases htakes : b.Takes line.indent
    · obtain ⟨n, hindent, hle⟩ := htakes
      have hblock := h.withBlock (some { b with contentIndent := some n })
      have hplace := (hblock.context hline).place (hline.cursor.skip n)
      rw [lexBlock_of_le hblank hindent hle,
        lexBlock_of_le hblank' (hline.indent ▸ hindent) (hline.indent ▸ hle), hline.text,
        hline.indent]
      exact ⟨.cons (hblock.step hplace _ _ _) .nil,
        hblock.push line.indent .blockContent (line.text.drop n)⟩
    · rw [lexBlock_of_not_takes hblank htakes,
        lexBlock_of_not_takes hblank' (hline.indent ▸ htakes)]
      exact lexFresh_isMoved (h.withBlock none) hline

theorem lexLine_isMoved (h : s.IsMoved d t) (hline : line.IsMoved d line') :
    AreMoved d (lexLine s line) (lexLine t line') := by
  have hquote := h.quote
  generalize hs : s.quote = q, ht : t.quote = q' at hquote
  cases hquote with
  | some hq =>
    rw [lexLine_eq_lexQuoted hs, lexLine_eq_lexQuoted ht]
    exact lexQuoted_isMoved h hline hq
  | none =>
    cases hblock : s.block with
    | none =>
      rw [lexLine_of_none hs hblock, lexLine_of_none ht (h.block.trans hblock)]
      exact lexFresh_isMoved h hline
    | some b =>
      rw [lexLine_eq_lexBlock hs hblock, lexLine_eq_lexBlock ht (h.block.trans hblock)]
      exact lexBlock_isMoved h hline b

/-! ## Texts -/

theorem unclosed_isMoved (h : s.IsMoved d t) :
    List.Forall₂ (Step.IsMoved d) s.unclosed t.unclosed := by
  have hquote := h.quote
  rw [State.unclosed, State.unclosed, h.flow]
  generalize s.quote = q, t.quote = q' at hquote
  cases hquote with
  | none => exact .nil
  | some hq =>
    simp only [hq.raw]
    exact .cons ⟨⟨rfl, rfl, rfl, rfl, hq.place⟩, rfl⟩ .nil

/-- Lines that are lexed further down, from a state that is remembered alike, give the same tokens
further down. -/
theorem lexLines_isMoved (h : s.IsMoved d t) (number offset : Nat) (lines : List Text) :
    List.Forall₂ (Step.IsMoved d) (lexLines s number offset lines)
      (lexLines t (number + d.lines) (offset + d.bytes) lines) := by
  induction lines generalizing s t number offset with
  | nil => exact unclosed_isMoved h
  | cons text lines ih =>
    have hline : Line.IsMoved d ⟨number, offset, text⟩ ⟨number + d.lines, offset + d.bytes, text⟩ :=
      ⟨rfl, rfl, rfl⟩
    obtain ⟨hsteps, hstate⟩ := lexLine_isMoved h hline
    have hrest := ih hstate (number + 1) (offset + byteLength text + 1)
    rw [lexLines_cons, lexLines_cons]
    refine List.rel_append hsteps ?_
    convert hrest using 2 <;> omega

theorem tokens_isMoved {a b : List Step} (h : List.Forall₂ (Step.IsMoved d) a b) :
    List.Forall₂ (Token.IsMoved d) (a.map (·.token)) (b.map (·.token)) :=
  List.forall₂_map_left_iff.2 (List.forall₂_map_right_iff.2 (h.imp fun _ _ hstep => hstep.token))

end Lexer

end YamlListing.Yaml

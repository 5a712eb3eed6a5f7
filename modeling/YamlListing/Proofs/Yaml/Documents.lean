import YamlListing.Proofs.Yaml.Shift

set_option autoImplicit false

/-! # Documents

A marker line ends a document. The text after it is lexed as if it stood alone, only further down,
if the lexer forgets all that it knows of the document before (`State.IsCutBy`), and only then
(`lexesApart_iff`). Two things can keep it from that. A block scalar whose header asks for content
at column 1 takes the marker for content. And a marker that closes a document while flow collections
are open leaves the indentations around them, so what comes after it has other levels. -/

namespace YamlListing.Yaml

open Text (byteLength splitLines)

/-- The lines between documents. -/
inductive Marker where
  /-- Three dashes, which open a document. -/
  | opening
  /-- Three dots, which close one. -/
  | closing
  deriving DecidableEq, Repr

namespace Marker

def text : Marker → Text
  | opening => ['-', '-', '-']
  | closing => ['.', '.', '.']

def kind : Marker → TokenKind
  | opening => .documentHeader
  | closing => .documentEnd

/-- A text, a marker line and another text. -/
def between (m : Marker) (before after : Text) : Text := before ++ '\n' :: (m.text ++ '\n' :: after)

/-- How much further down than on its own the text after the marker is. -/
def shift (before : Text) (levels : Prop) : Shift :=
  ⟨(splitLines before).length + 1, byteLength before + 5, levels⟩

/-- The token of a marker line at a place in a text. -/
def token (m : Marker) (number offset level : Nat) : Token :=
  ⟨m.kind, m.text, m.text, .directive, ⟨number, 1, offset, 0, level⟩⟩

/-- Whether the tokens after the marker are those of the text after it, further down. -/
def LexesApart (m : Marker) (before after : Text) : Prop :=
  ∃ front marker back, Lexer.tokenize (m.between before after) = front ++ marker :: back ∧
    marker.raw = m.text ∧ marker.place.line = (splitLines before).length + 1 ∧
    List.Forall₂ (Token.IsMoved (shift before True)) (Lexer.tokenize after) back

end Marker

namespace Lexer

variable {s : State} {before after : Text} {m : Marker}

/-! ## The marker line -/

/-- The state after a marker line. -/
def State.afterMarker (s : State) (m : Marker) : State :=
  ⟨0, none, s.quote, if m = .opening ∨ s.flow = 0 then [0] else s.indents, some m.kind⟩

/-- Whether a block scalar is being read whose content may stand at column 1. -/
def State.ReadsColumnOne (s : State) : Prop := s.block.bind (·.contentIndent) = some 0

theorem lexFresh_marker (h : IsNested s.indents) (m : Marker) (number offset : Nat) :
    ∃ level, lexFresh s ⟨number, offset, m.text⟩ =
      ([⟨m.token number offset level, 0⟩], s.afterMarker m) := by
  have hstart : lineStart? m.text = some (m.kind, m.text) := by cases m <;> rfl
  have hrest : ((Line.cursor ⟨number, offset, m.text⟩).skip m.text.length).rest = [] :=
    List.drop_length
  have hindent : Line.indent ⟨number, offset, m.text⟩ = 0 := by cases m <;> rfl
  have henter : s.enter ⟨number, offset, m.text⟩ =
      if s.flow = 0 then { s with indents := [0] } else s := by
    have hzero : s.flow = 0 ∧ (!Line.isBlank ⟨number, offset, m.text⟩) = true ∧
        (!Line.isComment ⟨number, offset, m.text⟩) = true ↔ s.flow = 0 := by
      cases m <;> exact and_iff_left ⟨rfl, rfl⟩
    simp only [State.enter, hzero, hindent, h.indentTo_zero]
  have hpush : (s.enter ⟨number, offset, m.text⟩).push 0 m.kind m.text = s.afterMarker m := by
    rw [henter, State.afterMarker]
    cases m <;> split <;> simp_all [State.push, Marker.kind]
  refine ⟨(s.enter ⟨number, offset, m.text⟩).level, ?_⟩
  rw [lexFresh_of_some hstart, lexRest_nil hrest, State.step, State.context, LineContext.place,
    hindent, hpush]
  cases m <;> rfl

/-- Nothing that is unfinished runs into a marker line but a quote, and a block scalar with content
at column 1. -/
theorem lexLine_marker (h : IsNested s.indents) (hquote : s.quote = none)
    (hblock : ¬ s.ReadsColumnOne) (m : Marker) (number offset : Nat) :
    ∃ level, lexLine s ⟨number, offset, m.text⟩ =
      ([⟨m.token number offset level, 0⟩], s.afterMarker m) := by
  have hindent : Line.indent ⟨number, offset, m.text⟩ = 0 := by cases m <;> rfl
  have hblank : Line.isBlank ⟨number, offset, m.text⟩ = false := by cases m <;> rfl
  have hfresh : lexLine s ⟨number, offset, m.text⟩ =
      lexFresh { s with block := none } ⟨number, offset, m.text⟩ := by
    refine lexLine_eq_lexFresh hquote fun b hb => ⟨hblank, ?_⟩
    rw [State.ReadsColumnOne, hb, Option.bind_some] at hblock
    rw [hindent]
    cases hcontent : b.contentIndent with
    | none =>
      rw [takes_iff_of_none hcontent]
      exact Nat.not_lt_zero b.parentIndent
    | some n =>
      rw [takes_iff_of_some hcontent, Nat.le_zero]
      rintro rfl
      exact hblock hcontent
  rw [hfresh]
  exact lexFresh_marker (s := { s with block := none }) h m number offset

/-! ## Two texts -/

theorem tokenize_between (h : (endState before).quote = none) (m : Marker) (after : Text) :
    tokenize (m.between before after) = tokenize before ++
      (lexLines (endState before) ((splitLines before).length + 1) (byteLength before + 1)
        (m.text :: splitLines after)).map (·.token) := by
  have hmarker : splitLines m.text = [m.text] := by cases m <;> rfl
  have hlines : splitLines (m.between before after) =
      splitLines before ++ (m.text :: splitLines after) := by
    rw [Marker.between, Text.splitLines_append_newline, Text.splitLines_append_newline, hmarker]
    rfl
  have hbytes : 0 + byteLength (Text.terminated (splitLines before)) = byteLength before + 1 := by
    rw [Text.terminated_splitLines, Text.byteLength_append, Nat.zero_add]
    rfl
  rw [tokenize, steps, hlines, lexLines_append _ h, hbytes, Nat.add_comm 1, List.map_append]
  rfl

/-- From the state after a marker line the lexer goes on as from its first one, at least up to
levels. -/
theorem start_isMoved (hquote : s.quote = none) (m : Marker) {d : Shift}
    (hlevels : d.levels → m = .opening ∨ s.flow = 0 ∨ s.indents = [0]) :
    State.start.IsMoved d (s.afterMarker m) := by
  refine ⟨rfl, rfl, ?_, ?_, ?_⟩
  · rw [State.afterMarker, hquote]
    exact .none
  · intro hd
    simp only [State.afterMarker]
    split
    · rfl
    · next hkept =>
      rw [not_or] at hkept
      exact ((hlevels hd).resolve_left hkept.1).resolve_left hkept.2
  · cases m <;> rfl

/-- The tokens of two texts with a marker line between them. -/
theorem exists_tokenize_between (hquote : (endState before).quote = none)
    (hblock : ¬ (endState before).ReadsColumnOne) {levels : Prop}
    (hlevels : levels → m = .opening ∨ (endState before).flow = 0 ∨
      (endState before).indents = [0]) (after : Text) :
    ∃ level back, tokenize (m.between before after) = tokenize before ++
        m.token ((splitLines before).length + 1) (byteLength before + 1) level :: back ∧
      List.Forall₂ (Token.IsMoved (Marker.shift before levels)) (tokenize after) back := by
  obtain ⟨level, hline⟩ := lexLine_marker (endState_isNested before) hquote hblock m
    ((splitLines before).length + 1) (byteLength before + 1)
  have hmoved := lexLines_isMoved (d := Marker.shift before levels)
    (start_isMoved hquote m hlevels) 1 0 (splitLines after)
  have hnumber : 1 + (Marker.shift before levels).lines = (splitLines before).length + 1 + 1 :=
    Nat.add_comm _ _
  have hoffset : 0 + (Marker.shift before levels).bytes =
      byteLength before + 1 + byteLength m.text + 1 := by
    have hmarker : byteLength m.text = 3 := by cases m <;> rfl
    simp only [hmarker, Marker.shift]
    omega
  rw [hnumber, hoffset] at hmoved
  refine ⟨level, _, ?_, tokens_isMoved hmoved⟩
  rw [tokenize_between hquote, lexLines_cons, hline]
  rfl

/-! ## What the lexer must not remember -/

/-- Whether a marker line makes the lexer forget all that it knows. -/
structure State.IsCutBy (s : State) (m : Marker) : Prop where
  block : ¬ s.ReadsColumnOne
  indents : m = .opening ∨ s.flow = 0 ∨ s.indents = [0]

/-- A line that is read as content of a block scalar at column 1. -/
theorem lexLine_of_readsColumnOne (hquote : s.quote = none) (hblock : s.ReadsColumnOne)
    {line : Line} (hline : line.isBlank = false) :
    ∃ step t, lexLine s line = ([step], t) ∧ step.token.kind = .blockContent ∧ t.quote = none ∧
      t.ReadsColumnOne := by
  obtain ⟨b, hb, hcontent⟩ := Option.bind_eq_some_iff.1 hblock
  have htakes : b.Takes line.indent := (takes_iff_of_some hcontent _).2 (Nat.zero_le _)
  obtain ⟨⟨step, hstep, hkind⟩, hquote', hblock'⟩ := lexLine_content hquote hb hline htakes
  refine ⟨step, _, Prod.ext hstep rfl, hkind, hquote', ?_⟩
  rw [State.ReadsColumnOne, hblock', hcontent]
  rfl

/-- What is last if the text after the marker has one token. -/
theorem exists_getLast?_of_lexesApart (h : m.LexesApart before after) {token : Token}
    (htoken : tokenize after = [token]) :
    ∃ last, (tokenize (m.between before after)).getLast? = some last ∧
      token.IsMoved (Marker.shift before True) last := by
  obtain ⟨front, marker, back, heq, -, -, hmoved⟩ := h
  rw [htoken] at hmoved
  obtain ⟨last, rest, hlast, hrest, rfl⟩ := List.forall₂_cons_left_iff.1 hmoved
  obtain rfl := List.forall₂_nil_left_iff.1 hrest
  refine ⟨last, ?_, hlast⟩
  rw [heq, List.getLast?_append, List.getLast?_cons_cons]
  rfl

theorem tokenize_comment :
    tokenize ['#'] = [⟨.comment, ['#'], [], .comment, ⟨1, 1, 0, 0, 0⟩⟩] := by decide +kernel

/-- A comment after a marker line has the level that the lexer remembers. -/
theorem lexLine_comment (hquote : s.quote = none) (hblock : s.block = none) (number offset : Nat) :
    ∃ step t, lexLine s ⟨number, offset, ['#']⟩ = ([step], t) ∧
      step.token.place.level = s.level ∧ t.quote = none := by
  have hstart : lineStart? (Line.text ⟨number, offset, ['#']⟩) = none := rfl
  have henter : s.enter ⟨number, offset, ['#']⟩ = s := if_neg fun h => Bool.noConfusion h.2.2
  have hrest : (Line.cursor ⟨number, offset, ['#']⟩).rest = '#' :: [] := rfl
  rw [lexLine_of_none hquote hblock, lexFresh_of_none hstart, henter, lexRest_cons hrest]
  exact ⟨_, _, rfl, rfl, hquote⟩

/-- The last token of two lines that give one token each. -/
theorem getLast?_between {t t' : State} {marker comment : Step}
    (hquote : (endState before).quote = none)
    (hline : lexLine (endState before)
      ⟨(splitLines before).length + 1, byteLength before + 1, m.text⟩ = ([marker], t))
    (hline' : lexLine t ⟨(splitLines before).length + 1 + 1,
      byteLength before + 1 + byteLength m.text + 1, ['#']⟩ = ([comment], t'))
    (hquote' : t'.quote = none) :
    (tokenize (m.between before ['#'])).getLast? = some comment.token := by
  have hlines : splitLines ['#'] = [['#']] := rfl
  rw [tokenize_between hquote, hlines, lexLines_cons, hline, lexLines_cons, hline', lexLines,
    State.unclosed_of_none hquote', List.getLast?_append]
  rfl

theorem not_readsColumnOne (hquote : (endState before).quote = none)
    (h : m.LexesApart before ['#']) : ¬ (endState before).ReadsColumnOne := by
  intro hblock
  have hmarker : Line.isBlank ⟨(splitLines before).length + 1, byteLength before + 1, m.text⟩ =
      false := by cases m <;> rfl
  obtain ⟨_, s, hline, -, hs, hsblock⟩ := lexLine_of_readsColumnOne hquote hblock hmarker
  have hcomment : Line.isBlank ⟨(splitLines before).length + 1 + 1,
      byteLength before + 1 + byteLength m.text + 1, ['#']⟩ = false := rfl
  obtain ⟨step, t, hline', hkind, ht, -⟩ := lexLine_of_readsColumnOne hs hsblock hcomment
  obtain ⟨last, hlast, hmoved⟩ := exists_getLast?_of_lexesApart h tokenize_comment
  rw [getLast?_between hquote hline hline' ht] at hlast
  have hcontent := hmoved.kind
  rw [← Option.some.inj hlast, hkind] at hcontent
  cases hcontent

theorem indents_of_lexesApart (hquote : (endState before).quote = none)
    (h : m.LexesApart before ['#']) :
    m = .opening ∨ (endState before).flow = 0 ∨ (endState before).indents = [0] := by
  by_cases hforgotten : m = .opening ∨ (endState before).flow = 0
  · exact hforgotten.imp_right Or.inl
  · have hnested := endState_isNested before
    refine Or.inr (Or.inr (hnested.eq_start_iff.2 ?_))
    obtain ⟨_, hline⟩ := lexLine_marker hnested hquote (not_readsColumnOne hquote h) m
      ((splitLines before).length + 1) (byteLength before + 1)
    obtain ⟨step, t, hline', hlevel, ht⟩ := lexLine_comment
      (s := (endState before).afterMarker m) hquote rfl ((splitLines before).length + 1 + 1)
      (byteLength before + 1 + byteLength m.text + 1)
    obtain ⟨last, hlast, hmoved⟩ := exists_getLast?_of_lexesApart h tokenize_comment
    rw [getLast?_between hquote hline hline' ht] at hlast
    have hzero := hmoved.place.level trivial
    rw [← Option.some.inj hlast, hlevel, State.level, State.afterMarker] at hzero
    rwa [if_neg hforgotten] at hzero

/-- The text after a marker line is lexed as if it stood alone, whatever it is, exactly if the
marker cuts the state that the text before it leads to. Unless a block scalar takes the marker for
content, the tokens before it are those of the text before, and the ones after it are those of the
text after up to levels. -/
theorem lexesApart_iff (h : ¬ LeavesQuoteOpen before) (m : Marker) :
    ((∀ after, m.LexesApart before after) ↔ (endState before).IsCutBy m) ∧
      (¬ (endState before).ReadsColumnOne → ∀ after, ∃ level back,
        tokenize (m.between before after) = tokenize before ++
          m.token ((splitLines before).length + 1) (byteLength before + 1) level :: back ∧
        List.Forall₂ (Token.IsMoved (Marker.shift before False)) (tokenize after) back) := by
  have hquote := quote_endState h
  refine ⟨⟨fun hapart => ?_, fun hcut after => ?_⟩, fun hblock after => ?_⟩
  · exact ⟨not_readsColumnOne hquote (hapart ['#']), indents_of_lexesApart hquote (hapart ['#'])⟩
  · obtain ⟨level, back, heq, hmoved⟩ :=
      exists_tokenize_between hquote hcut.block (fun _ : True => hcut.indents) after
    exact ⟨_, _, back, heq, rfl, rfl, hmoved⟩
  · exact exists_tokenize_between hquote hblock False.elim after

/-- An indented bracket that nothing closes. -/
def bracket : Text := [' ', ' ', '[']

/-- Nothing of the bracket reaches past a marker that opens a document. -/
theorem lexesApart_bracket :
    ¬ LeavesQuoteOpen bracket ∧ ∀ after, Marker.opening.LexesApart bracket after := by
  have hquote : ¬ LeavesQuoteOpen bracket := by decide +kernel
  have hblock : ¬ (endState bracket).ReadsColumnOne := by
    rw [State.ReadsColumnOne]
    decide +kernel
  exact ⟨hquote, (lexesApart_iff hquote .opening).1.2 ⟨hblock, Or.inl rfl⟩⟩

/-- After a marker that closes the document the indentation of the bracket still counts: a word that
is indented further has level 2, and on its own level 1. -/
theorem not_lexesApart_bracket :
    ¬ LeavesQuoteOpen bracket ∧ ¬ Marker.closing.LexesApart bracket [' ', ' ', ' ', ' ', 'b'] := by
  refine ⟨by decide +kernel, fun h => ?_⟩
  have hword : tokenize [' ', ' ', ' ', ' ', 'b'] =
      [⟨.scalar .plain, ['b'], ['b'], .none, ⟨1, 5, 4, 4, 1⟩⟩] := by decide +kernel
  have htokens : (tokenize (Marker.closing.between bracket [' ', ' ', ' ', ' ', 'b'])).getLast? =
      some ⟨.scalar .plain, ['b'], ['b'], .none, ⟨3, 5, 12, 4, 2⟩⟩ := by decide +kernel
  obtain ⟨last, hlast, hmoved⟩ := exists_getLast?_of_lexesApart h hword
  obtain rfl := Option.some.inj (htokens.symm.trans hlast)
  cases hmoved.place.level trivial

end Lexer

end YamlListing.Yaml

import Mathlib.Data.List.Nodup
import YamlListing.Proofs.Yaml.BlockScalars
import YamlListing.Proofs.Yaml.Progress

set_option autoImplicit false

/-! # The lines that the lexer comes to

`visits` are the lines of a text, each with the state in which the lexer comes to it. A line is
lexed in one of four ways (`Visit.Lexed`), and in only one of them can it be structural, that is,
change the stack of indentations (`Visit.next_indents`).

The tokens of a text stand on the lines where they begin, with the level that the line has there
(`exists_visit_of_mem_tokenize`). On every structural line one begins, although a quote that stays
open only gives its token later (`exists_token_of_isStructural`). -/

namespace YamlListing.Yaml.Lexer

open Text (byteLength splitLines)
open Unicode (isBlank)

/-! ## One line -/

/-- A line, and the state in which the lexer comes to it. -/
structure Visit where
  state : State
  line : Line
  deriving DecidableEq

namespace Visit

variable (v : Visit)

def steps : List Step := (lexLine v.state v.line).1

/-- The state after the line. -/
def next : State := (lexLine v.state v.line).2

/-- Whether the line begins a document. -/
def opensDocument : Bool := v.steps.any (·.token.kind == .documentHeader)

/-- Whether the line has something other than a comment on it, is not inside a quoted or block
    scalar, and begins outside flow collections. -/
def isStructural : Bool :=
  !v.line.isBlank && !v.line.isComment && v.state.quote.isNone &&
    !v.steps.any (·.token.kind == .blockContent) && v.state.flow == 0

/-- The stack of indentations that the line is lexed with. -/
def indents : List Nat :=
  if v.isStructural then State.indentTo v.line.indent v.state.indents else v.state.indents

def level : Nat := v.indents.length - 1

/-- How a line is lexed. -/
inductive Lexed : Prop
  | quoted (q : OpenQuote) (hquote : v.state.quote = some q)
      (h : lexLine v.state v.line = lexQuoted v.state v.line q)
  | blank (hquote : v.state.quote = none) (hblank : v.line.isBlank = true)
      (h : lexLine v.state v.line = ([], v.state))
  | content (block : Option BlockScalar) (place : Place) (raw : Text)
      (hquote : v.state.quote = none) (hline : place.line = v.line.number)
      (hlevel : place.level = v.state.level)
      (h : lexLine v.state v.line =
        ([{ v.state with block := block }.step place .blockContent raw raw],
          { v.state with block := block }.push v.line.indent .blockContent raw))
  | fresh (hquote : v.state.quote = none)
      (h : lexLine v.state v.line = lexFresh { v.state with block := none } v.line)

theorem lexed : v.Lexed := by
  cases hquote : v.state.quote with
  | some q => exact .quoted q hquote (lexLine_eq_lexQuoted hquote)
  | none =>
    cases hblock : v.state.block with
    | none => exact .fresh hquote (lexLine_eq_lexFresh hquote (by simp [hblock]))
    | some b =>
      cases hblank : v.line.isBlank with
      | true => exact .blank hquote hblank (lexLine_of_isBlank hquote hblock hblank)
      | false =>
        by_cases htakes : b.Takes v.line.indent
        · obtain ⟨n, hindent, hle⟩ := htakes
          let place := (v.state.context v.line).place (v.line.cursor.skip n)
          refine .content (some { b with contentIndent := some n }) place (v.line.text.drop n)
            hquote rfl rfl ?_
          rw [lexLine_eq_lexBlock hquote hblock, lexBlock_of_le hblank hindent hle]
          rfl
        · exact .fresh hquote (lexLine_end hquote hblock hblank htakes)

end Visit

/-! ## Indentations -/

theorem State.indents_push (s : State) (indent : Nat) (kind : TokenKind) (raw : Text) :
    (s.push indent kind raw).indents = if kind = .documentHeader then [0] else s.indents := by
  cases kind <;> rfl

theorem State.indents_push_of_isFree {kind : TokenKind} (h : kind.isFree = true) (s : State)
    (indent : Nat) (raw : Text) : (s.push indent kind raw).indents = s.indents := by
  rw [State.indents_push, if_neg]
  rintro rfl
  cases h

section run

variable {s t : State} {steps : List Step} {indent : Nat}

theorem Run.indents (h : Run indent s steps t) : t.indents = s.indents := by
  induction h with
  | nil s quote => rfl
  | cons hfree _ _ _ ih => rw [ih, State.indents_push_of_isFree hfree]

theorem Run.any_eq_false (h : Run indent s steps t) {kind : TokenKind}
    (hkind : kind.isFree = false) : steps.any (·.token.kind == kind) = false := by
  rw [List.any_eq_false]
  intro step hstep heq
  rw [← beq_iff_eq.1 heq, h.isFree step hstep] at hkind
  cases hkind

/-- Closing a quote and reading on is a run, and so is leaving it open. -/
theorem lexQuoted_run (s : State) (line : Line) (q : OpenQuote) :
    Run line.indent { s with quote := none } (lexQuoted s line q).1 (lexQuoted s line q).2 := by
  cases h : quoteLength? q.quote line.text with
  | none =>
    rw [lexQuoted_of_none h]
    exact .nil { s with quote := none } _
  | some n =>
    rw [lexQuoted_of_some h]
    refine .cons rfl (fun h => TokenKind.noConfusion h) (bracketsAfter_quoted q.quote) ?_
    exact lexRest_run (State.context _ line) _ _

/-- A line that nothing runs into changes the stack where it is entered, or begins a document. -/
theorem lexFresh_indents (s : State) (line : Line) : (lexFresh s line).2.indents =
    if (lexFresh s line).1.any (·.token.kind == .documentHeader) then [0]
    else (s.enter line).indents := by
  rcases lexFresh_cases s line with hrun | ⟨place, kind, raw, steps, -, hsteps, hrun⟩
  · rw [hrun.any_eq_false rfl, hrun.indents, if_neg Bool.false_ne_true]
  · rw [hsteps, List.any_cons, hrun.any_eq_false rfl, Bool.or_false, hrun.indents,
      State.indents_push]
    simp only [State.step, beq_iff_eq]

end run

namespace Visit

variable {v : Visit}

theorem indents_of_not_isStructural (h : v.isStructural = false) : v.indents = v.state.indents := by
  rw [indents, h, if_neg Bool.false_ne_true]

theorem not_isStructural_of_quote {q : OpenQuote} (h : v.state.quote = some q) :
    v.isStructural = false := by
  simp [isStructural, h]

theorem not_isStructural_of_isBlank (h : v.line.isBlank = true) : v.isStructural = false := by
  simp [isStructural, h]

theorem not_isStructural_of_content {step : Step} (h : v.steps = [step])
    (hkind : step.token.kind = .blockContent) : v.isStructural = false := by
  simp [isStructural, h, hkind]

/-- The state in which a line is lexed that nothing runs into has the stack of the line. -/
theorem indents_enter (hquote : v.state.quote = none)
    (h : lexLine v.state v.line = lexFresh { v.state with block := none } v.line) :
    ({ v.state with block := none }.enter v.line : State).indents = v.indents := by
  have hcontent : v.steps.any (·.token.kind == .blockContent) = false := by
    rw [steps, h, List.any_eq_false]
    intro step hstep heq
    exact lexFresh_ne_blockContent _ _ step hstep (beq_iff_eq.1 heq)
  have hstructural : v.isStructural = true ↔
      v.state.flow = 0 ∧ (!v.line.isBlank) = true ∧ (!v.line.isComment) = true := by
    simp only [isStructural, hquote, hcontent, Option.isNone_none, Bool.not_false, Bool.and_true,
      Bool.and_eq_true, beq_iff_eq]
    exact and_comm.trans Iff.rfl
  rw [State.enter, indents]
  by_cases hs : v.isStructural = true
  · rw [if_pos hs, if_pos (hstructural.1 hs)]
  · rw [if_neg hs, if_neg (mt hstructural.2 hs)]

/-- After a line the stack is the one that it was lexed with, unless it begins a document. -/
theorem next_indents (v : Visit) :
    v.next.indents = if v.opensDocument then [0] else v.indents := by
  rw [next, opensDocument, steps]
  cases v.lexed with
  | quoted q hquote h =>
    rw [h, indents_of_not_isStructural (not_isStructural_of_quote hquote),
      (lexQuoted_run _ _ q).any_eq_false rfl, if_neg Bool.false_ne_true]
    exact (lexQuoted_run _ _ q).indents
  | blank hquote hblank h =>
    rw [h, indents_of_not_isStructural (not_isStructural_of_isBlank hblank)]
    rfl
  | content block place raw hquote hline hlevel h =>
    rw [h, indents_of_not_isStructural (not_isStructural_of_content (congrArg Prod.fst h) rfl)]
    rfl
  | fresh hquote h =>
    rw [h, lexFresh_indents, indents_enter hquote h]

end Visit

/-! ## Places -/

/-- Whether the tokens of a stretch, and a quote that is left open after it, have a kind of
    place. -/
structure ArePlaced (P : Place → Prop) (result : List Step × State) : Prop where
  steps : ∀ step ∈ result.1, P step.token.place
  quote : ∀ q ∈ result.2.quote, P q.place

/-- Whether a token of a stretch has a kind of place, or a quote that is left open after it. -/
def ShowsPlace (P : Place → Prop) (result : List Step × State) : Prop :=
  (∃ step ∈ result.1, P step.token.place) ∨ ∃ q ∈ result.2.quote, P q.place

section place

variable {P : Place → Prop} {s : State} {ctx : LineContext} {line : Line}

theorem ArePlaced.nil (h : ∀ q ∈ s.quote, P q.place) : ArePlaced P ([], s) :=
  ⟨List.forall_mem_nil _, h⟩

theorem ArePlaced.cons {step : Step} {result : List Step × State} (h : P step.token.place)
    (hresult : ArePlaced P result) : ArePlaced P (step :: result.1, result.2) :=
  ⟨List.forall_mem_cons.2 ⟨h, hresult.steps⟩, hresult.quote⟩

theorem State.push_isPlaced (h : ∀ q ∈ s.quote, P q.place) (indent : Nat) (kind : TokenKind)
    (raw : Text) : ∀ q ∈ (s.push indent kind raw).quote, P q.place := by
  rw [State.push_quote]
  exact h

theorem lexRest_arePlaced (hctx : ∀ cur, P (ctx.place cur)) (h : ∀ q ∈ s.quote, P q.place)
    (cur : Cursor) : ArePlaced P (lexRest ctx s cur) := by
  induction s, cur using lexRest.induct ctx with
  | case1 s cur hrest =>
    rw [lexRest_nil hrest]
    exact .nil h
  | case2 s cur c rest hrest hround ih =>
    rw [lexRest_cons hrest, hround]
    exact ih h
  | case3 s cur c rest hrest kind raw value hround steps s' hresult ih =>
    rw [lexRest_cons hrest, hround]
    exact .cons (hctx cur) (ih (State.push_isPlaced h ctx.indent kind raw))
  | case4 s cur c rest hrest raw value hround =>
    rw [lexRest_cons hrest, hround]
    exact .cons (hctx cur) (.nil (State.push_isPlaced h ctx.indent .comment raw))
  | case5 s cur c rest hrest quote hround =>
    rw [lexRest_cons hrest, hround]
    refine .nil fun q hq => ?_
    obtain rfl := Option.some.inj hq
    exact hctx cur

/-- Anything but blanks gives a token or opens a quote. -/
theorem lexRest_showsPlace (hctx : ∀ cur, P (ctx.place cur)) {cur : Cursor}
    (h : cur.rest.all isBlank = false) : ShowsPlace P (lexRest ctx s cur) := by
  induction s, cur using lexRest.induct ctx with
  | case1 s cur hrest =>
    rw [hrest] at h
    cases h
  | case2 s cur c rest hrest hround ih =>
    rw [lexRest_cons hrest, hround]
    rw [hrest, List.all_cons, Round.blank_isBlank hround, Bool.true_and] at h
    have hskip : (cur.skip 1).rest = rest := by rw [Cursor.skip, hrest]; rfl
    exact ih (hskip ▸ h)
  | case3 s cur c rest hrest kind raw value hround steps s' hresult ih =>
    rw [lexRest_cons hrest, hround]
    exact Or.inl ⟨_, List.mem_cons_self, hctx cur⟩
  | case4 s cur c rest hrest raw value hround =>
    rw [lexRest_cons hrest, hround]
    exact Or.inl ⟨_, List.mem_cons_self, hctx cur⟩
  | case5 s cur c rest hrest quote hround =>
    rw [lexRest_cons hrest, hround]
    exact Or.inr ⟨_, rfl, hctx cur⟩

theorem lexFresh_arePlaced (hctx : ∀ cur, P (((s.enter line).context line).place cur))
    (h : s.quote = none) : ArePlaced P (lexFresh s line) := by
  have henter : ∀ q ∈ (s.enter line).quote, P q.place := by
    rw [State.enter_quote, h]
    rintro q ⟨⟩
  cases hstart : lineStart? line.text with
  | none =>
    rw [lexFresh_of_none hstart]
    exact lexRest_arePlaced hctx henter _
  | some found =>
    rw [lexFresh_of_some hstart]
    exact .cons (hctx _) (lexRest_arePlaced hctx (State.push_isPlaced henter _ _ _) _)

theorem lexFresh_showsPlace (hctx : ∀ cur, P (((s.enter line).context line).place cur))
    (h : line.isBlank = false) : ShowsPlace P (lexFresh s line) := by
  cases hstart : lineStart? line.text with
  | none =>
    rw [lexFresh_of_none hstart]
    exact lexRest_showsPlace hctx h
  | some found =>
    rw [lexFresh_of_some hstart]
    exact Or.inl ⟨_, List.mem_cons_self, hctx _⟩

theorem lexQuoted_arePlaced {q : OpenQuote} (hctx : ∀ cur, P ((s.context line).place cur))
    (hq : P q.place) : ArePlaced P (lexQuoted s line q) := by
  cases h : quoteLength? q.quote line.text with
  | none =>
    rw [lexQuoted_of_none h]
    refine .nil fun q' hq' => ?_
    obtain rfl := Option.some.inj hq'
    exact hq
  | some n =>
    rw [lexQuoted_of_some h]
    have hclosed : ∀ q ∈ ({ s with quote := none } : State).quote, P q.place := by
      rintro q ⟨⟩
    exact .cons hq (lexRest_arePlaced hctx (State.push_isPlaced hclosed _ _ _) _)

/-- An open quote is closed with its place, or stays open. -/
theorem lexQuoted_showsPlace {q : OpenQuote} (hq : P q.place) :
    ShowsPlace P (lexQuoted s line q) := by
  cases h : quoteLength? q.quote line.text with
  | none =>
    rw [lexQuoted_of_none h]
    exact Or.inr ⟨_, rfl, hq⟩
  | some n =>
    rw [lexQuoted_of_some h]
    exact Or.inl ⟨_, List.mem_cons_self, hq⟩

end place

namespace Visit

variable {v : Visit} {P : Place → Prop}

/-- Whether a place lies on the line, with the level that the line has. -/
def Locates (v : Visit) (place : Place) : Prop :=
  place.line = v.line.number ∧ place.level = v.level

theorem locates_of_indents {s : State} (h : s.indents = v.indents) (cur : Cursor) :
    v.Locates ((s.context v.line).place cur) :=
  ⟨rfl, by rw [level, ← h]; rfl⟩

/-- A token of a line has its place there, or where a quote was opened that runs into the line. -/
theorem arePlaced (hP : ∀ place, v.Locates place → P place)
    (hquote : ∀ q ∈ v.state.quote, P q.place) : ArePlaced P (lexLine v.state v.line) := by
  cases v.lexed with
  | quoted q hq h =>
    rw [h]
    have hindents := indents_of_not_isStructural (not_isStructural_of_quote hq)
    exact lexQuoted_arePlaced (fun cur => hP _ (locates_of_indents hindents.symm cur))
      (hquote q hq)
  | blank hq hblank h =>
    rw [h]
    exact .nil hquote
  | content block place raw hq hline hlevel h =>
    have hindents := indents_of_not_isStructural
      (not_isStructural_of_content (congrArg Prod.fst h) rfl)
    have hplace : v.Locates place := ⟨hline, by rw [hlevel, level, hindents]; rfl⟩
    let s : State := { v.state with block := block }
    have hs : ∀ q ∈ s.quote, P q.place := hquote
    have hstep : P (s.step place .blockContent raw raw).token.place := hP place hplace
    rw [h]
    exact .cons hstep (.nil (State.push_isPlaced hs v.line.indent .blockContent raw))
  | fresh hq h =>
    rw [h]
    exact lexFresh_arePlaced (fun cur => hP _ (locates_of_indents (indents_enter hq h) cur)) hq

theorem showsPlace_of_isStructural (h : v.isStructural = true) :
    ShowsPlace v.Locates (lexLine v.state v.line) := by
  have hblank : v.line.isBlank = false := by
    cases hblank : v.line.isBlank with
    | false => rfl
    | true => exact absurd h (ne_true_of_eq_false (not_isStructural_of_isBlank hblank))
  cases v.lexed with
  | quoted q hq _ => exact absurd h (ne_true_of_eq_false (not_isStructural_of_quote hq))
  | blank _ hblank' _ => exact absurd hblank' (ne_true_of_eq_false hblank)
  | content block place raw _ _ _ hlexed =>
    have hnot := not_isStructural_of_content (congrArg Prod.fst hlexed) rfl
    exact absurd h (ne_true_of_eq_false hnot)
  | fresh hq hlexed =>
    rw [hlexed]
    exact lexFresh_showsPlace (fun cur => locates_of_indents (indents_enter hq hlexed) cur) hblank

end Visit

/-! ## All lines -/

/-- Lines, the first of which has the given number and distance from the start, each with the state
    in which the lexer comes to it. -/
def State.visits (s : State) (number offset : Nat) : List Text → List Visit
  | [] => []
  | text :: rest =>
    let v : Visit := ⟨s, ⟨number, offset, text⟩⟩
    v :: v.next.visits (number + 1) (offset + byteLength text + 1) rest

/-- The lines of a text. -/
def visits (t : Text) : List Visit := State.start.visits 1 0 (splitLines t)

section visits

variable {s : State} {lines : List Text} {P : Place → Prop}

theorem State.numbers_visits (s : State) (number offset : Nat) (lines : List Text) :
    (s.visits number offset lines).map (·.line.number) = List.range' number lines.length := by
  induction lines generalizing s number offset with
  | nil => rfl
  | cons text lines ih =>
    rw [State.visits, List.map_cons, ih, List.length_cons, List.range'_succ]

/-- No two lines have the same number. -/
theorem eq_of_number_eq {t : Text} {v w : Visit} (hv : v ∈ visits t) (hw : w ∈ visits t)
    (h : v.line.number = w.line.number) : v = w := by
  have hnodup : ((visits t).map (·.line.number)).Nodup := by
    rw [visits, State.numbers_visits]
    exact List.nodup_range'
  exact List.inj_on_of_nodup_map hnodup hv hw h

theorem unclosed_isPlaced (h : ∀ q ∈ s.quote, P q.place) :
    ∀ step ∈ s.unclosed, P step.token.place := by
  intro step hstep
  rw [State.unclosed] at hstep
  cases hs : s.quote with
  | none =>
    rw [hs] at hstep
    cases hstep
  | some q =>
    rw [hs] at hstep
    obtain rfl := List.mem_singleton.1 hstep
    exact h q hs

theorem lexLines_isPlaced {number offset : Nat}
    (hP : ∀ v ∈ s.visits number offset lines, ∀ place, v.Locates place → P place)
    (h : ∀ q ∈ s.quote, P q.place) :
    ∀ step ∈ lexLines s number offset lines, P step.token.place := by
  induction lines generalizing s number offset with
  | nil => exact unclosed_isPlaced h
  | cons text lines ih =>
    obtain ⟨hfirst, hrest⟩ := List.forall_mem_cons.1 hP
    have hline := Visit.arePlaced (v := ⟨s, ⟨number, offset, text⟩⟩) hfirst h
    rw [lexLines_cons]
    exact List.forall_mem_append.2 ⟨hline.steps, ih hrest hline.quote⟩

/-- Every token of a text stands on a line, and has the level of that line. -/
theorem exists_visit_of_mem_tokenize {t : Text} {token : Token} (h : token ∈ tokenize t) :
    ∃ v ∈ visits t, v.Locates token.place := by
  obtain ⟨step, hstep, rfl⟩ := List.mem_map.1 h
  refine lexLines_isPlaced (P := fun place => ∃ v ∈ visits t, v.Locates place) ?_ ?_ step hstep
  · exact fun v hv place hplace => ⟨v, hv, hplace⟩
  · rintro q ⟨⟩

/-- An open quote becomes a token. -/
theorem exists_step_of_quote (number offset : Nat) (lines : List Text)
    (h : ∃ q ∈ s.quote, P q.place) :
    ∃ step ∈ lexLines s number offset lines, P step.token.place := by
  obtain ⟨q, hq, hplace⟩ := h
  induction lines generalizing s number offset q with
  | nil =>
    rw [lexLines, State.unclosed, hq]
    exact ⟨_, List.mem_singleton_self _, hplace⟩
  | cons text lines ih =>
    rw [lexLines_cons, lexLine_eq_lexQuoted hq]
    obtain ⟨step, hstep, hplace⟩ | ⟨q', hq', hplace⟩ := lexQuoted_showsPlace hplace
    · exact ⟨step, List.mem_append_left _ hstep, hplace⟩
    · obtain ⟨step, hstep, hplace⟩ := ih _ _ q' hq' hplace
      exact ⟨step, List.mem_append_right _ hstep, hplace⟩

theorem exists_step_of_isStructural {number offset : Nat} {v : Visit}
    (hv : v ∈ s.visits number offset lines) (h : v.isStructural = true) :
    ∃ step ∈ lexLines s number offset lines, v.Locates step.token.place := by
  induction lines generalizing s number offset with
  | nil => cases hv
  | cons text lines ih =>
    rw [lexLines_cons]
    obtain rfl | hv := List.mem_cons.1 hv
    · obtain ⟨step, hstep, hplace⟩ | hquote := Visit.showsPlace_of_isStructural h
      · exact ⟨step, List.mem_append_left _ hstep, hplace⟩
      · obtain ⟨step, hstep, hplace⟩ := exists_step_of_quote _ _ lines hquote
        exact ⟨step, List.mem_append_right _ hstep, hplace⟩
    · obtain ⟨step, hstep, hplace⟩ := ih hv
      exact ⟨step, List.mem_append_right _ hstep, hplace⟩

/-- On every structural line a token begins. -/
theorem exists_token_of_isStructural {t : Text} {v : Visit} (hv : v ∈ visits t)
    (h : v.isStructural = true) : ∃ token ∈ tokenize t, v.Locates token.place := by
  obtain ⟨step, hstep, hplace⟩ := exists_step_of_isStructural hv h
  exact ⟨step.token, List.mem_map_of_mem hstep, hplace⟩

/-- The tokens on a line have its level. -/
theorem level_eq_of_mem_tokenize {t : Text} {v : Visit} (hv : v ∈ visits t) {token : Token}
    (htoken : token ∈ tokenize t) (h : token.place.line = v.line.number) :
    token.place.level = v.level := by
  obtain ⟨w, hw, hline, hlevel⟩ := exists_visit_of_mem_tokenize htoken
  rw [hlevel, eq_of_number_eq hv hw (h.symm.trans hline)]

end visits

end YamlListing.Yaml.Lexer

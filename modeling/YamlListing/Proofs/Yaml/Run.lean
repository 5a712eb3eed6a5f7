import YamlListing.Proofs.Yaml.Brackets
import YamlListing.Proofs.Yaml.States

set_option autoImplicit false

/-! # Token after token

`Run` is what the lexer does on a line that it reads token by token: each token is pushed, and the
next one is read from the state that this leads to. What a line does to flow collections and to the
block scalar that is being read follows from its tokens alone (`Run.counts`, `Run.block`).

The number of open flow collections that the lexer goes by is the one that counting its brackets
gives, and the one that the classifier counts again by the kinds of the tokens (`steps_counts`). -/

namespace YamlListing.Yaml

open Segment (flowAfter)

/-- Whether a token can stand anywhere on a line: all can but content of a block scalar and those
    that only a line begins with. -/
def TokenKind.isFree : TokenKind → Bool
  | .blockContent | .directive | .documentHeader | .documentEnd => false
  | _ => true

namespace Lexer

open Text (splitLines)

/-! ## Rounds -/

section round

variable {flow : Nat} {afterKey : Bool} {before : Option Char} {c : Char} {rest raw value : Text}
  {kind : TokenKind}

/-- A round finds tokens that can stand anywhere, and stray brackets only outside flow
collections. -/
theorem Round.token_isFree (h : round flow afterKey before c rest = .token kind raw value) :
    kind.isFree = true ∧ (kind = .invalid → flow = 0) := by
  cases Round.finds h with
  | stray hflow => exact ⟨rfl, fun _ => hflow⟩
  | _ => exact ⟨rfl, nofun⟩

end round

/-! ## What a token does -/

section push

variable (s : State) (indent : Nat) (raw : Text)

theorem State.flow_push {s : State} {kind : TokenKind} (h : kind = .invalid → s.flow = 0) :
    (s.push indent kind raw).flow = flowAfter s.flow kind := by
  cases kind with
  | invalid =>
    have hflow := h rfl
    simp only [State.push, flowAfter, hflow]
  | _ => rfl

/-- The block scalar that is being read after a token on a line with the given indentation. -/
def blockAfter (indent : Nat) (block : Option BlockScalar) (kind : TokenKind) (raw : Text) :
    Option BlockScalar :=
  match kind with
  | .blockLiteral | .blockFolded => some ⟨indent, State.headerIndent? indent raw⟩
  | .documentHeader | .documentEnd => none
  | _ => block

theorem State.block_push (kind : TokenKind) :
    (s.push indent kind raw).block = blockAfter indent s.block kind raw := by
  cases kind <;> rfl

end push

/-! ## Runs -/

/-- Reading tokens on a line with the given indentation leads from one state to another, in which a
    quote may have been left open. -/
inductive Run (indent : Nat) : State → List Step → State → Prop
  | nil (s : State) (quote : Option OpenQuote) : Run indent s [] { s with quote := quote }
  | cons {s t : State} {steps : List Step} {place : Place} {kind : TokenKind} {raw value : Text}
      (hfree : kind.isFree = true) (hinvalid : kind = .invalid → s.flow = 0)
      (hbrackets : bracketsAfter s.flow (s.step place kind raw value).token =
        flowAfter s.flow kind)
      (h : Run indent (s.push indent kind raw) steps t) :
      Run indent s (s.step place kind raw value :: steps) t

/-- Each step names the number of open flow collections that counting on from `flow` gives, by kinds
    as by brackets, and `final` is the last of them. -/
inductive Counts : Nat → List Step → Nat → Prop
  | nil (flow : Nat) : Counts flow [] flow
  | cons {flow final : Nat} {step : Step} {steps : List Step}
      (hstep : step.flow = flowAfter flow step.token.kind)
      (hbrackets : bracketsAfter flow step.token = step.flow)
      (h : Counts step.flow steps final) :
      Counts flow (step :: steps) final

section runs

variable {s t : State} {line : Line} {steps steps' : List Step} {flow mid final indent : Nat}

theorem Counts.append (h : Counts flow steps mid) (h' : Counts mid steps' final) :
    Counts flow (steps ++ steps') final := by
  induction h with
  | nil flow => exact h'
  | cons hstep hbrackets _ ih => exact .cons hstep hbrackets (ih h')

/-- The number that a step names is the count of the kinds of tokens up to it. -/
theorem Counts.flow_eq {step : Step} (h : Counts flow (steps ++ step :: steps') final) :
    step.flow = ((steps ++ [step]).map (·.token.kind)).foldl flowAfter flow := by
  induction steps generalizing flow with
  | nil =>
    cases h with
    | cons hstep _ _ => exact hstep
  | cons first steps ih =>
    cases h with
    | cons hstep _ h =>
      rw [ih h, hstep]
      rfl

theorem State.flow_step {kind : TokenKind} (place : Place) (raw value : Text)
    (h : kind = .invalid → s.flow = 0) :
    (s.step place kind raw value).flow = flowAfter s.flow kind :=
  State.flow_push place.indent raw h

theorem Run.counts (h : Run indent s steps t) : Counts s.flow steps t.flow := by
  induction h with
  | nil s quote => exact .nil s.flow
  | @cons s t steps place kind raw value _ hinvalid hbrackets _ ih =>
    have hflow := State.flow_step place raw value hinvalid
    rw [State.flow_push indent raw hinvalid, ← hflow] at ih
    exact .cons hflow (hbrackets.trans hflow.symm) ih

theorem Run.isFree (h : Run indent s steps t) :
    ∀ step ∈ steps, step.token.kind.isFree = true := by
  induction h with
  | nil s quote => exact List.forall_mem_nil _
  | cons hfree _ _ _ ih => exact List.forall_mem_cons.2 ⟨hfree, ih⟩

theorem Run.block (h : Run indent s steps t) : t.block =
    steps.foldl (fun block step => blockAfter indent block step.token.kind step.token.raw)
      s.block := by
  induction h with
  | nil s quote => rfl
  | cons _ _ _ _ ih =>
    rw [ih, State.block_push]
    rfl

/-! ## Lines -/

theorem lexRest_run (ctx : LineContext) (s : State) (cur : Cursor) :
    Run ctx.indent s (lexRest ctx s cur).1 (lexRest ctx s cur).2 := by
  induction s, cur using lexRest.induct ctx with
  | case1 s cur hrest =>
    rw [lexRest_nil hrest]
    exact .nil s s.quote
  | case2 s cur c rest hrest hround ih =>
    rw [lexRest_cons hrest, hround]
    exact ih
  | case3 s cur c rest hrest kind raw value hround steps s' hresult ih =>
    rw [lexRest_cons hrest, hround]
    obtain ⟨hfree, hinvalid⟩ := Round.token_isFree hround
    exact .cons hfree hinvalid (bracketsAfter_step (Round.flowAfter_eq hround)) ih
  | case4 s cur c rest hrest raw value hround =>
    rw [lexRest_cons hrest, hround]
    exact .cons rfl (fun h => TokenKind.noConfusion h)
      (bracketsAfter_step (Round.afterText_comment hround).symm) (.nil _ s.quote)
  | case5 s cur c rest hrest quote hround =>
    rw [lexRest_cons hrest, hround]
    exact .nil s _

theorem State.flow_enter (s : State) (line : Line) : (s.enter line).flow = s.flow := by
  rw [State.enter]
  split <;> rfl

/-- A line that nothing runs into is a run, after the directive or marker that it may begin with. -/
theorem lexFresh_cases (s : State) (line : Line) :
    Run line.indent (s.enter line) (lexFresh s line).1 (lexFresh s line).2 ∨
      ∃ place kind raw steps, lineStart? line.text = some (kind, raw) ∧
        (lexFresh s line).1 = (s.enter line).step place kind raw raw :: steps ∧
        Run line.indent ((s.enter line).push place.indent kind raw) steps (lexFresh s line).2 := by
  cases hstart : lineStart? line.text with
  | none =>
    rw [lexFresh_of_none hstart]
    exact Or.inl (lexRest_run ((s.enter line).context line) _ _)
  | some found =>
    rw [lexFresh_of_some hstart]
    exact Or.inr ⟨((s.enter line).context line).place line.cursor, found.1, found.2, _, rfl,
      rfl, lexRest_run ((s.enter line).context line) _ _⟩

theorem lexFresh_counts (s : State) (line : Line) :
    Counts s.flow (lexFresh s line).1 (lexFresh s line).2.flow := by
  rw [← s.flow_enter line]
  rcases lexFresh_cases s line with hrun | ⟨place, kind, raw, steps, hstart, hsteps, hrun⟩
  · exact hrun.counts
  · have hvalid : kind = .invalid → (s.enter line).flow = 0 := by
      rcases (lineStart?_eq_some hstart).2.2 with rfl | rfl | rfl <;>
        exact fun h => TokenKind.noConfusion h
    have hrest := hrun.counts
    rw [State.flow_push _ _ hvalid, ← State.flow_step place raw raw hvalid] at hrest
    have hflow := State.flow_step place raw raw hvalid
    rw [hsteps]
    exact .cons hflow ((bracketsAfter_lineStart hstart).trans hflow.symm) hrest

theorem lexQuoted_counts (s : State) (line : Line) (q : OpenQuote) :
    Counts s.flow (lexQuoted s line q).1 (lexQuoted s line q).2.flow := by
  cases hlength : quoteLength? q.quote line.text with
  | none =>
    rw [lexQuoted_of_none hlength]
    exact .nil s.flow
  | some n =>
    rw [lexQuoted_of_some hlength]
    exact Run.counts (s := { s with quote := none })
      (.cons rfl (fun h => TokenKind.noConfusion h) (bracketsAfter_quoted q.quote)
        (lexRest_run (State.context _ line) _ _))

theorem lexBlock_counts (s : State) (line : Line) (b : BlockScalar) :
    Counts s.flow (lexBlock s line b).1 (lexBlock s line b).2.flow := by
  cases hblank : line.isBlank with
  | true =>
    rw [lexBlock_of_isBlank hblank]
    exact .nil s.flow
  | false =>
    by_cases htakes : b.Takes line.indent
    · obtain ⟨n, hindent, hle⟩ := htakes
      rw [lexBlock_of_le hblank hindent hle]
      exact .cons rfl rfl (.nil _)
    · rw [lexBlock_of_not_takes hblank htakes]
      exact lexFresh_counts { s with block := none } line

theorem lexLine_counts (s : State) (line : Line) :
    Counts s.flow (lexLine s line).1 (lexLine s line).2.flow := by
  cases hquote : s.quote with
  | some q =>
    rw [lexLine_eq_lexQuoted hquote]
    exact lexQuoted_counts s line q
  | none =>
    cases hblock : s.block with
    | some b =>
      rw [lexLine_eq_lexBlock hquote hblock]
      exact lexBlock_counts s line b
    | none =>
      rw [lexLine_of_none hquote hblock]
      exact lexFresh_counts s line

theorem lexLines_counts (s : State) (number offset : Nat) (lines : List Text) :
    ∃ final, Counts s.flow (lexLines s number offset lines) final := by
  induction lines generalizing s number offset with
  | nil =>
    rw [lexLines, State.unclosed]
    split
    · exact ⟨s.flow, .nil s.flow⟩
    · exact ⟨s.flow, .cons rfl rfl (.nil s.flow)⟩
  | cons text lines ih =>
    obtain ⟨final, hrest⟩ := ih (lexLine s ⟨number, offset, text⟩).2 (number + 1) _
    exact ⟨final, (lexLine_counts s ⟨number, offset, text⟩).append hrest⟩

end runs

/-- The number of open flow collections that the lexer goes by is the count of the brackets that it
reads. -/
theorem steps_counts (t : Text) : ∃ final, Counts 0 (steps t) final :=
  lexLines_counts .start 1 0 (splitLines t)

end Lexer

end YamlListing.Yaml

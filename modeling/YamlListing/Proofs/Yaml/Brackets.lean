import YamlListing.Proofs.Yaml.Rounds
import YamlListing.Yaml.Segment

set_option autoImplicit false

/-! # Brackets

The lexer counts the flow collections that are open by the brackets that it sees
(`bracketsAfter`), and the classifier counts them again by the kinds of the tokens (`flowAfter`).
Here the two counts are shown to take the same step at whatever a round finds and at what a line
begins with. They could part at a closing bracket that closes nothing: the lexer counts it down,
while its token is none that closes a collection. -/

namespace YamlListing.Yaml.Lexer

open Segment (flowAfter)

/-- The number of open flow collections after a text that the lexer looks at: a bracket that stands
    alone opens one or closes one, if there is one. -/
def afterText (flow : Nat) : Text → Nat
  | ['['] | ['\x7b'] => flow + 1
  | [']'] | ['\x7d'] => flow - 1
  | _ => flow

/-- The number of open flow collections after a token, by what is written there. A marker closes
    them all; quoted text and content of block scalars is not looked at. -/
def bracketsAfter (flow : Nat) (token : Token) : Nat :=
  match token.kind with
  | .documentHeader | .documentEnd => 0
  | .blockContent => flow
  | _ => if token.indicator = .quotedScalar then flow else afterText flow token.raw

/-- A text that begins with no bracket changes nothing. -/
theorem afterText_of_head {c : Char} {raw : Text} (flow : Nat) (h : raw.head? = some c)
    (hc : isBracket c = false) : afterText flow raw = flow := by
  unfold afterText
  -- In each case but the last the text is one of the brackets.
  split
  all_goals first
    | rfl
    | (obtain rfl := Option.some.inj h; cases hc)

theorem head?_of_isPrefix {raw : Text} {c : Char} {rest : Text} (h : raw <+: c :: rest)
    (hne : raw ≠ []) : raw.head? = some c := by
  obtain ⟨d, raw, rfl⟩ := List.exists_cons_of_ne_nil hne
  rw [(List.cons_prefix_cons.1 h).1]
  rfl

section round

variable {flow : Nat} {afterKey : Bool} {before : Option Char} {c : Char} {rest raw value : Text}
  {kind : TokenKind}

/-- The two counts agree on whatever a round finds. -/
theorem Round.flowAfter_eq (h : round flow afterKey before c rest = .token kind raw value) :
    flowAfter flow kind = afterText flow raw := by
  have hhead := head?_of_isPrefix (Round.token_isPrefix h).1 (Round.token_ne_nil h)
  cases Round.finds h with
  | sequenceStart | mappingStart | sequenceEnd | mappingEnd => rfl
  | stray hflow hc =>
    -- A bracket that closes nothing leaves the count at zero.
    subst hflow
    rcases hc with rfl | rfl <;> rfl
  | reserved hc =>
    have hc : isBracket c = false := by rcases hc with rfl | rfl <;> rfl
    exact (afterText_of_head flow hhead hc).symm
  | quoted hc =>
    have hc : isBracket c = false := by rcases isQuote_iff.1 hc with rfl | rfl <;> rfl
    exact (afterText_of_head flow hhead hc).symm
  | plain hc => exact (afterText_of_head flow hhead hc).symm
  | _ => exact (afterText_of_head flow hhead rfl).symm

theorem Round.afterText_comment (h : round flow afterKey before c rest = .comment raw value) :
    afterText flow raw = flow := by
  obtain ⟨hraw, hblank⟩ := Round.comment_eq h
  rw [hraw]
  cases Round.finds h with
  | comment =>
    have hhead := head?_of_isPrefix (Text.trimEnd_isPrefix _) (trimEnd_ne_nil hblank rest)
    exact afterText_of_head flow hhead rfl

end round

/-- A line begins with a percent sign if it begins with a directive. -/
theorem head?_of_lineStart? {t raw : Text} (h : lineStart? t = some (.directive, raw)) :
    raw.head? = some '%' := by
  obtain ⟨hpre, hne, -⟩ := lineStart?_eq_some h
  unfold lineStart? at h
  split at h
  · exact head?_of_isPrefix hpre hne
  all_goals (try split at h) <;> cases h

/-! ## Tokens -/

section token

variable {s : State} {place : Place} {kind : TokenKind} {raw value : Text}

/-- The two counts agree on a token if they agree on its text. -/
theorem bracketsAfter_step (h : flowAfter s.flow kind = afterText s.flow raw) :
    bracketsAfter s.flow (s.step place kind raw value).token = flowAfter s.flow kind := by
  cases kind with
  | documentHeader | documentEnd | blockContent => rfl
  | scalar style =>
    cases style with
    | plain => exact h.symm
    | singleQuoted | doubleQuoted => rfl
  | _ => exact h.symm

/-- Quoted text opens and closes nothing, whatever it is. -/
theorem bracketsAfter_quoted (quote : Char) :
    bracketsAfter s.flow (s.step place (.scalar (quoteStyle quote)) raw value).token =
      flowAfter s.flow (.scalar (quoteStyle quote)) := by
  rw [quoteStyle]
  split <;> rfl

/-- The two counts agree on the directive or the marker that a line begins with. -/
theorem bracketsAfter_lineStart {t : Text} (h : lineStart? t = some (kind, raw)) :
    bracketsAfter s.flow (s.step place kind raw value).token = flowAfter s.flow kind := by
  rcases (lineStart?_eq_some h).2.2 with rfl | rfl | rfl
  · exact bracketsAfter_step (afterText_of_head s.flow (head?_of_lineStart? h) rfl).symm
  · rfl
  · rfl

end token

end YamlListing.Yaml.Lexer

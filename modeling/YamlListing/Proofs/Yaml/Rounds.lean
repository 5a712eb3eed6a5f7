import YamlListing.Proofs.Text.Trim
import YamlListing.Yaml.Lexer

set_option autoImplicit false

/-! # What a round takes off a line

`Round.Finds` says what a round can find in front of a line and what holds where it finds that, and
`Round.finds` that it finds nothing else: what is shown of rounds here and later goes through its
cases.

Whatever `round` finds is a prefix of the line, and the few functions that measure how far a token
reaches give prefixes too. A comment is followed by nothing but blanks. -/

namespace YamlListing.Yaml.Lexer

open Unicode (isBlank)

/-! ## How far tokens reach -/

theorem plainReach_isPrefix (inFlow : Bool) (before : Option Char) (t : Text) :
    plainReach inFlow before t <+: t := by
  induction t generalizing before with
  | nil => exact List.prefix_rfl
  | cons c t ih =>
      rw [plainReach]
      split
      · exact List.nil_prefix
      · exact (List.prefix_cons_inj c).2 (ih (some c))

theorem plainScalar_isPrefix (inFlow : Bool) (t : Text) : plainScalar inFlow t <+: t :=
  (Text.trimEnd_isPrefix _).trans (plainReach_isPrefix inFlow none t)

theorem directiveReach_isPrefix (before : Option Char) (t : Text) :
    directiveReach before t <+: t := by
  induction t generalizing before with
  | nil => exact List.prefix_rfl
  | cons c t ih =>
      rw [directiveReach]
      split
      · exact List.nil_prefix
      · exact (List.prefix_cons_inj c).2 (ih (some c))

/-- A closing quote has been read when a quoted scalar ends. -/
theorem quoteLength?_pos {quote : Char} {t : Text} {n : Nat} (h : quoteLength? quote t = some n) :
    0 < n ∧ n ≤ t.length := by
  induction t using quoteLength?.induct quote generalizing n with
  | case1 => simp [quoteLength?] at h
  | case2 =>
      rw [quoteLength?, if_pos rfl] at h
      obtain rfl := Option.some.inj h
      simp
  | case3 c hc => simp [quoteLength?, hc] at h
  | case4 c d rest hcd ih =>
      rw [quoteLength?, if_pos hcd, Option.map_eq_some_iff] at h
      obtain ⟨m, hm, rfl⟩ := h
      have := ih hm
      simp only [List.length_cons]
      omega
  | case5 d rest hcd =>
      rw [quoteLength?, if_neg hcd, if_pos rfl] at h
      obtain rfl := Option.some.inj h
      simp
  | case6 c d rest hcd hc ih =>
      rw [quoteLength?, if_neg hcd, if_neg hc, Option.map_eq_some_iff] at h
      obtain ⟨m, hm, rfl⟩ := h
      have := ih hm
      simp only [List.length_cons] at this ⊢
      omega

/-- The directive or marker that a line begins with is a prefix of it. -/
theorem lineStart?_eq_some {t raw : Text} {kind : TokenKind} (h : lineStart? t = some (kind, raw)) :
    raw <+: t ∧ raw ≠ [] ∧
      (kind = .directive ∨ kind = .documentHeader ∨ kind = .documentEnd) := by
  unfold lineStart? at h
  split at h
  · obtain ⟨rfl, rfl⟩ := Prod.mk.inj (Option.some.inj h)
    refine ⟨(Text.trimEnd_isPrefix _).trans (directiveReach_isPrefix none _), ?_, Or.inl rfl⟩
    rw [directiveReach, if_neg (by simp)]
    exact trimEnd_ne_nil (by decide) _
  · split at h
    · obtain ⟨rfl, rfl⟩ := Prod.mk.inj (Option.some.inj h)
      exact ⟨⟨_, rfl⟩, by simp, Or.inr (Or.inl rfl)⟩
    · cases h
  · split at h
    · obtain ⟨rfl, rfl⟩ := Prod.mk.inj (Option.some.inj h)
      exact ⟨⟨_, rfl⟩, by simp, Or.inr (Or.inr rfl)⟩
    · cases h
  · cases h

/-! ## Rounds -/

/-- Whether a character opens or closes a flow collection. -/
def isBracket (c : Char) : Bool := c == '[' || c == ']' || c == '\x7b' || c == '\x7d'

theorem isQuote_iff {c : Char} : isQuote c = true ↔ c = '"' ∨ c = '\'' := by
  rw [isQuote, Bool.or_eq_true, beq_iff_eq, beq_iff_eq]

theorem quoteStyle_ne_plain (quote : Char) : quoteStyle quote ≠ .plain := by
  rw [quoteStyle]
  split <;> decide

section finds

variable (flow : Nat)

/-- What a round can find in front of a character and what follows it, and what holds where it finds
    that. -/
inductive Round.Finds : Char → Text → Round → Prop
  | blank {c : Char} {rest : Text} (h : isBlank c = true) : Finds c rest .blank
  | comment {rest : Text} : Finds '#' rest (.comment (Text.trimEnd ('#' :: rest)) (Text.trim rest))
  | sequenceStart {rest : Text} : Finds '[' rest (.plainToken .sequenceStart ['['])
  | mappingStart {rest : Text} : Finds '\x7b' rest (.plainToken .mappingStart ['\x7b'])
  | sequenceEnd {rest : Text} (h : 0 < flow) : Finds ']' rest (.plainToken .sequenceEnd [']'])
  | mappingEnd {rest : Text} (h : 0 < flow) :
    Finds '\x7d' rest (.plainToken .mappingEnd ['\x7d'])
  | stray {c : Char} {rest : Text} (hflow : flow = 0) (h : c = ']' ∨ c = '\x7d') :
    Finds c rest (.plainToken .invalid [c])
  | collectEntry {rest : Text} : Finds ',' rest (.plainToken .collectEntry [','])
  | sequenceEntry {rest : Text} : Finds '-' rest (.plainToken .sequenceEntry ['-'])
  | mappingKey {rest : Text} : Finds '?' rest (.plainToken .mappingKey ['?'])
  | mappingValue {rest : Text} : Finds ':' rest (.plainToken .mappingValue [':'])
  | anchor {rest : Text} : Finds '&' rest
      (.token .anchor ('&' :: propertyName (0 < flow) rest) (propertyName (0 < flow) rest))
  | reference {rest : Text} : Finds '*' rest
      (.token .alias ('*' :: propertyName (0 < flow) rest) (propertyName (0 < flow) rest))
  | tag {rest : Text} : Finds '!' rest (.plainToken .tag ('!' :: propertyName (0 < flow) rest))
  | blockLiteral {rest : Text} :
    Finds '|' rest (.plainToken .blockLiteral ('|' :: blockSigns rest))
  | blockFolded {rest : Text} :
    Finds '>' rest (.plainToken .blockFolded ('>' :: blockSigns rest))
  | reserved {c : Char} {rest : Text} (h : c = '@' ∨ c = '\x60') :
    Finds c rest (.plainToken .unknown (c :: rest.takeWhile fun d => !isBlank d))
  | mergeKey {after : Text} : Finds '<' ('<' :: after) (.plainToken .mergeKey ['<', '<'])
  | quoted {c : Char} {rest : Text} {n : Nat} (h : isQuote c = true)
    (hn : quoteLength? c rest = some n) : Finds c rest
      (.token (.scalar (quoteStyle c)) (c :: rest.take n) (unquote c (c :: rest.take n)))
  | openQuote {c : Char} {rest : Text} (h : isQuote c = true) : Finds c rest (.openQuote c)
  | plain {c : Char} {rest : Text} (h : isBracket c = false) :
    Finds c rest (.plainToken (.scalar .plain) (plainScalar (0 < flow) (c :: rest)))

end finds

variable {flow : Nat} {afterKey : Bool} {before : Option Char} {c : Char} {rest : Text}

theorem Round.finds {found : Round} (h : round flow afterKey before c rest = found) :
    Round.Finds flow c rest found := by
  subst h
  unfold round
  simp only [Round.plainToken]
  split
  · exact .blank ‹_›
  · split
    all_goals (repeat' split)
    all_goals first
      | (constructor; done)
      | exact .sequenceEnd (by simpa using ‹decide (0 < flow) = true›)
      | exact .mappingEnd (by simpa using ‹decide (0 < flow) = true›)
      | exact .stray (by simpa using ‹¬ decide (0 < flow) = true›) (by decide)
      | exact .reserved (by decide)
      | exact .quoted ‹_› ‹_›
      | exact .openQuote ‹_›
      | exact .plain (by simp_all [isBracket])

theorem Round.blank_isBlank (h : round flow afterKey before c rest = .blank) :
    isBlank c = true := by
  cases Round.finds h with
  | blank hblank => exact hblank

/-- A token is what stands in front of the line, and the sign before a value is a colon. -/
theorem Round.token_isPrefix {kind : TokenKind} {raw value : Text}
    (h : round flow afterKey before c rest = .token kind raw value) :
    raw <+: c :: rest ∧ (kind = .mappingValue → raw = [':']) := by
  have hwhile (c : Char) (p : Char → Bool) : c :: rest.takeWhile p <+: c :: rest :=
    (List.prefix_cons_inj c).2 (List.takeWhile_prefix p)
  cases Round.finds h with
  | sequenceStart | mappingStart | sequenceEnd | mappingEnd | stray | collectEntry |
    sequenceEntry | mappingKey | mergeKey => exact ⟨⟨_, rfl⟩, nofun⟩
  | mappingValue => exact ⟨⟨_, rfl⟩, fun _ => rfl⟩
  | anchor | reference | tag | blockLiteral | blockFolded | reserved => exact ⟨hwhile _ _, nofun⟩
  | quoted => exact ⟨(List.prefix_cons_inj c).2 (List.take_prefix _ rest), nofun⟩
  | plain => exact ⟨plainScalar_isPrefix _ _, nofun⟩

/-- The text of a plain scalar is what `plainScalar` takes off the line. -/
theorem Round.plain_eq {kind : TokenKind} {raw value : Text}
    (h : round flow afterKey before c rest = .token kind raw value)
    (hkind : kind = .scalar .plain) : raw = plainScalar (0 < flow) (c :: rest) := by
  cases Round.finds h with
  | plain => rfl
  | quoted => exact absurd (TokenKind.scalar.inj hkind) (quoteStyle_ne_plain c)
  | _ => cases hkind

/-- A comment reaches up to the blanks at the end of the line. -/
theorem Round.comment_eq {raw value : Text}
    (h : round flow afterKey before c rest = .comment raw value) :
    raw = Text.trimEnd (c :: rest) ∧ isBlank c = false := by
  cases Round.finds h with
  | comment => exact ⟨rfl, rfl⟩

end YamlListing.Yaml.Lexer

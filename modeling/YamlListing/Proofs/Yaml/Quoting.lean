import YamlListing.Proofs.Yaml.Quoted

set_option autoImplicit false

/-! # Writing quoted scalars

A text without line breaks is written in quotes by putting a sign before each character that the
quotes would read otherwise: a quote before a single quote, and a backslash before a double quote or
a backslash. Main statement: the lexer finds one scalar in what is written, from the first quote to
the last, and reads the text without the blanks at its end (`tokenize_write`). So it reads the text
that was written just if that does not end in a blank. -/

namespace YamlListing.Yaml

open Unicode (isBlank)

/-- The ways to write a scalar in quotes. -/
inductive Quoting where
  | single
  | double
  deriving DecidableEq, Repr

namespace Quoting

/-- The sign around the scalar. -/
def quote : Quoting → Char
  | single => '\''
  | double => '"'

/-- The sign before a character that stands for itself. -/
def sign : Quoting → Char
  | single => '\''
  | double => '\\'

def style : Quoting → ScalarStyle
  | single => .singleQuoted
  | double => .doubleQuoted

/-- A character as it is written between the quotes. -/
def protect (q : Quoting) (c : Char) : Text := if c = q.quote ∨ c = q.sign then [q.sign, c] else [c]

/-- A text in quotes. -/
def write (q : Quoting) (v : Text) : Text := q.quote :: v.flatMap q.protect ++ [q.quote]

variable {q : Quoting} {c : Char}

theorem isQuote_quote (q : Quoting) : Lexer.isQuote q.quote = true := by cases q <;> rfl

theorem quoteStyle_quote (q : Quoting) : Lexer.quoteStyle q.quote = q.style := by cases q <;> rfl

theorem protect_of_eq (h : c = q.quote ∨ c = q.sign) : q.protect c = [q.sign, c] := if_pos h

theorem protect_of_ne (h : ¬ (c = q.quote ∨ c = q.sign)) : q.protect c = [c] := if_neg h

/-- Nothing is put before a blank. -/
theorem protect_of_isBlank (h : isBlank c = true) : q.protect c = [c] := by
  refine protect_of_ne ?_
  rintro (rfl | rfl) <;> cases q <;> revert h <;> decide

/-- What is written for a character ends in it. -/
theorem exists_protect_eq (q : Quoting) (c : Char) : ∃ signs, q.protect c = signs ++ [c] := by
  rw [protect]
  split
  · exact ⟨[q.sign], rfl⟩
  · exact ⟨[], rfl⟩

theorem flatMap_protect_of_isBlank {gap : Text} (h : ∀ c ∈ gap, isBlank c = true) :
    gap.flatMap q.protect = gap := by
  induction gap with
  | nil => rfl
  | cons c gap ih =>
    obtain ⟨hc, hgap⟩ := List.forall_mem_cons.1 h
    rw [List.flatMap_cons, protect_of_isBlank hc, ih hgap]
    rfl

/-- Blanks are written as they are, and nothing else is lost at the end of what is written. -/
theorem trimEnd_flatMap_protect (v : Text) :
    Text.trimEnd (v.flatMap q.protect) = (Text.trimEnd v).flatMap q.protect := by
  obtain ⟨gap, hv, hgap⟩ := Text.exists_trimEnd_append v
  have hlast := Text.trimEnd_eq_self_iff.1 (Text.trimEnd_trimEnd v)
  have hwritten := congrArg (List.flatMap q.protect) hv
  rw [List.flatMap_append, flatMap_protect_of_isBlank hgap] at hwritten
  rw [hwritten, Text.trimEnd_append_of_isBlank _ hgap]
  rcases List.eq_nil_or_concat (Text.trimEnd v) with hnil | ⟨s, c, hconcat⟩
  · rw [hnil]
    rfl
  · rw [List.concat_eq_append] at hconcat
    rw [hconcat, List.getLast?_concat] at hlast
    obtain ⟨signs, hsigns⟩ := exists_protect_eq q c
    rw [hconcat, List.flatMap_append, List.flatMap_singleton, hsigns, ← List.append_assoc]
    exact Text.trimEnd_concat _ (hlast c rfl)

theorem newline_not_mem_flatMap_protect {v : Text} (h : '\n' ∉ v) :
    '\n' ∉ v.flatMap q.protect := by
  intro hmem
  obtain ⟨c, hc, hprotect⟩ := List.mem_flatMap.1 hmem
  rw [protect] at hprotect
  split at hprotect
  · rcases List.mem_cons.1 hprotect with hsign | hprotect
    · cases q <;> cases hsign
    · exact h (List.mem_singleton.1 hprotect ▸ hc)
  · exact h (List.mem_singleton.1 hprotect ▸ hc)

/-! ## Reading what is written -/

/-- A character that is neither the quote nor a backslash in double quotes closes nothing. -/
theorem quoteLength?_cons (h : ¬ (c = q.quote ∨ c = q.sign)) (t : Text) :
    Lexer.quoteLength? q.quote (c :: t) = (Lexer.quoteLength? q.quote t).map (· + 1) := by
  obtain ⟨hquote, hsign⟩ := not_or.1 h
  cases t with
  | nil =>
    rw [Lexer.quoteLength?, Lexer.quoteLength?]
    exact if_neg hquote
  | cons d t =>
    rw [Lexer.quoteLength?, if_neg, if_neg hquote]
    rintro (⟨hq, rfl⟩ | ⟨hq, rfl, -⟩) <;> cases q <;> revert hq hsign <;> decide

theorem quoteLength?_sign (h : c = q.quote ∨ c = q.sign) (t : Text) :
    Lexer.quoteLength? q.quote (q.sign :: c :: t) =
      (Lexer.quoteLength? q.quote t).map (· + 2) := by
  rw [Lexer.quoteLength?, if_pos]
  cases q with
  | single =>
    refine .inr ⟨rfl, rfl, ?_⟩
    rcases h with rfl | rfl <;> rfl
  | double => exact .inl ⟨rfl, rfl⟩

/-- The quote that closes is the one that is written at the end. -/
theorem quoteLength?_write (q : Quoting) (v : Text) :
    Lexer.quoteLength? q.quote (v.flatMap q.protect ++ [q.quote]) =
      some ((v.flatMap q.protect).length + 1) := by
  induction v with
  | nil =>
    rw [List.flatMap_nil, List.nil_append, Lexer.quoteLength?, if_pos rfl]
    rfl
  | cons c v ih =>
    rw [List.flatMap_cons, List.append_assoc]
    by_cases h : c = q.quote ∨ c = q.sign
    · rw [protect_of_eq h, List.cons_append, List.cons_append, quoteLength?_sign h,
        List.nil_append, ih]
      rfl
    · rw [protect_of_ne h, List.cons_append, List.nil_append, quoteLength?_cons h, ih]
      rfl

theorem undouble_flatMap_protect (v : Text) :
    undouble (v.flatMap single.protect) = v := by
  induction v with
  | nil => rfl
  | cons c v ih =>
    rw [List.flatMap_cons]
    by_cases h : c = single.quote ∨ c = single.sign
    · obtain rfl : c = '\'' := or_self_iff.1 h
      rw [protect_of_eq h]
      exact congrArg (List.cons '\'') ih
    · rw [protect_of_ne h, List.singleton_append, undouble_cons (not_or.1 h).1, ih]

theorem unescape_flatMap_protect (v : Text) : unescape (v.flatMap double.protect) = v := by
  induction v with
  | nil => rw [List.flatMap_nil, unescape]
  | cons c v ih =>
    rw [List.flatMap_cons]
    by_cases h : c = double.quote ∨ c = double.sign
    · rw [protect_of_eq h, List.cons_append, List.singleton_append]
      rcases h with rfl | rfl
      · rw [sign, quote, unescape, ih]
        rfl
      · rw [sign, unescape, ih]
        rfl
    · rw [protect_of_ne h, List.singleton_append, unescape_cons_of_ne (not_or.1 h).2, ih]

theorem unquote_write (q : Quoting) {v : Text} (h : '\n' ∉ v) :
    unquote q.quote (q.write v) = Text.trimEnd v := by
  rw [write, unquote_of_not_mem _ (newline_not_mem_flatMap_protect h), trimEnd_flatMap_protect]
  cases q with
  | single => exact undouble_flatMap_protect _
  | double => exact unescape_flatMap_protect _

/-- What is written in quotes is lexed as one scalar, which stands for the text without the blanks
    at its end. -/
theorem tokenize_write (q : Quoting) {v : Text} (h : '\n' ∉ v) :
    ∃ token, Lexer.tokenize (q.write v) = [token] ∧ token.kind = .scalar q.style ∧
      token.raw = q.write v ∧ token.place = ⟨1, 1, 0, 0, 0⟩ ∧ token.value = Text.trimEnd v ∧
      (token.value = v ↔ ∀ c ∈ v.getLast?, isBlank c = false) := by
  have hnewline : '\n' ∉ v.flatMap q.protect ++ [q.quote] := by
    rw [List.mem_append, List.mem_singleton, not_or]
    exact ⟨newline_not_mem_flatMap_protect h, by cases q <;> decide⟩
  have hlength : Lexer.quoteLength? q.quote (v.flatMap q.protect ++ [q.quote]) =
      some (v.flatMap q.protect ++ [q.quote]).length := by
    rw [quoteLength?_write, List.length_append, List.length_singleton]
  have htokens := Lexer.tokenize_of_quoteLength? (isQuote_quote q) hnewline hlength
  refine ⟨_, htokens, ?_, rfl, rfl, unquote_write q h, ?_⟩
  · rw [quoteStyle_quote]
  · rw [← Text.trimEnd_eq_self_iff, ← unquote_write q h]
    rfl

/-- The signs of both quotings, without a blank after them and with one. -/
theorem tokenize_write_signs :
    let v := ['\'', '"', '\\']
    '\n' ∉ v ∧ '\n' ∉ v ++ [' '] ∧
      (∃ token, Lexer.tokenize ['\'', '\'', '\'', '"', '\\', '\''] = [token] ∧
        token.kind = .scalar .singleQuoted ∧ token.value = v) ∧
      ∃ token, Lexer.tokenize ['"', '\'', '\\', '"', '\\', '\\', ' ', '"'] = [token] ∧
        token.kind = .scalar .doubleQuoted ∧ token.value = v := by
  intro v
  have hv : '\n' ∉ v := by decide
  have hv' : '\n' ∉ v ++ [' '] := by decide
  have hlast : ∀ c ∈ v.getLast?, isBlank c = false := Text.trimEnd_eq_self_iff.1 (by decide)
  obtain ⟨token, htoken, hkind, -, -, -, hvalue⟩ := tokenize_write .single hv
  obtain ⟨token', htoken', hkind', -, -, hvalue', -⟩ := tokenize_write .double hv'
  exact ⟨hv, hv', ⟨token, htoken, hkind, hvalue.2 hlast⟩, token', htoken', hkind', hvalue'⟩

/-- A blank at the end is not read back. -/
theorem not_tokenize_write_value :
    ¬ ∀ (q : Quoting) (v : Text), '\n' ∉ v → ∃ token, Lexer.tokenize (q.write v) = [token] ∧
      token.kind = .scalar q.style ∧ token.value = v := by
  intro h
  obtain ⟨token, htoken, -, hvalue⟩ := h .single ['a', ' '] (by decide)
  have hread : Lexer.tokenize (single.write ['a', ' ']) =
      [⟨.scalar .singleQuoted, ['\'', 'a', ' ', '\''], ['a'], .quotedScalar, ⟨1, 1, 0, 0, 0⟩⟩] := by
    decide +kernel
  obtain rfl := List.singleton_inj.1 (hread.symm.trans htoken)
  cases hvalue

end Quoting

end YamlListing.Yaml

import YamlListing.Yaml.Scalar
import YamlListing.Yaml.Token

set_option autoImplicit false

/-! # Cutting a YAML text into tokens

This lexer serves a highlighter, so it never fails: what it cannot make sense of becomes an
`invalid` or `unknown` token. It knows just enough structure to tell keys from values and block
scalars from plain text.

Lines are lexed one after the other. Between them a `State` keeps the nesting depth of flow
collections, a block scalar whose lines are still being read, a quote that is still open, and the
stack of indentations that gives each line its level. On a line, `round` looks at what is left and
says what stands in front of it; `Round.token_ne_nil` says that no token is empty, which is why the
loop `lexRest` ends. -/

namespace YamlListing.Yaml

open Unicode (isBlank)

namespace Lexer

/-! ## What a token looks like -/

/-- The characters that structure flow collections. -/
def isFlowIndicator (c : Char) : Bool :=
  c == ',' || c == '[' || c == ']' || c == '\x7b' || c == '\x7d'

/-- Whether what follows sets a character apart: a blank or the end of the line. -/
def isSeparated : Text → Bool
  | [] => true
  | c :: _ => isBlank c

/-- Whether a flow indicator follows. -/
def isBeforeFlow : Text → Bool
  | [] => false
  | c :: _ => isFlowIndicator c

/-- The name that follows an anchor, alias or tag sign: everything up to a blank, or inside a flow
    collection up to a flow indicator. -/
def propertyName (inFlow : Bool) (t : Text) : Text :=
  t.takeWhile fun c => !(isBlank c || (inFlow && isFlowIndicator c))

/-- The length of the rest of a quoted scalar after its opening quote, the closing quote included,
    or `none` if it is not closed. In double quotes a backslash protects the next character; in
    single quotes a doubled quote closes nothing. -/
def quoteLength? (quote : Char) : Text → Option Nat
  | [] => none
  | [c] => if c = quote then some 1 else none
  | c :: d :: rest =>
    if (quote = '"' ∧ c = '\\') ∨ (quote = '\'' ∧ c = '\'' ∧ d = '\'') then
      (quoteLength? quote rest).map (· + 2)
    else if c = quote then some 1
    else (quoteLength? quote (d :: rest)).map (· + 1)

/-- Whether a plain scalar ends before a character: at a colon that is set apart, at a hash after a
    blank, and inside a flow collection at a flow indicator. -/
def endsPlain (inFlow : Bool) (before : Option Char) (c : Char) (rest : Text) : Bool :=
  if c = ':' then isSeparated rest || (inFlow && isBeforeFlow rest)
  else if c = '#' then before.any isBlank
  else inFlow && isFlowIndicator c

/-- The text up to the end of a plain scalar, with the blanks before that end. -/
def plainReach (inFlow : Bool) (before : Option Char) : Text → Text
  | [] => []
  | c :: rest =>
    if endsPlain inFlow before c rest then [] else c :: plainReach inFlow (some c) rest

/-- The plain scalar at the start of a text. -/
def plainScalar (inFlow : Bool) (t : Text) : Text := Text.trimEnd (plainReach inFlow none t)

/-- The chomping and indentation signs after the sign of a block scalar. -/
def blockSigns (t : Text) : Text := t.takeWhile fun c => c.isDigit || c == '+' || c == '-'

/-- A directive: a line that begins with a percent sign, up to a hash after a blank. -/
def directiveReach (before : Option Char) : Text → Text
  | [] => []
  | c :: rest =>
    if c = '#' ∧ before.any isBlank then [] else c :: directiveReach (some c) rest

/-- The directive or document marker that a line begins with, if it does. -/
def lineStart? : Text → Option (TokenKind × Text)
  | '%' :: rest => some (.directive, Text.trimEnd (directiveReach none ('%' :: rest)))
  | '-' :: '-' :: '-' :: rest =>
    if isSeparated rest then some (.documentHeader, ['-', '-', '-']) else none
  | '.' :: '.' :: '.' :: rest =>
    if isSeparated rest then some (.documentEnd, ['.', '.', '.']) else none
  | _ => none

/-! ## One round -/

/-- What stands in front of the rest of a line. -/
inductive Round where
  /-- A blank, which belongs to no token. -/
  | blank
  /-- A token with its text and what it stands for. -/
  | token (kind : TokenKind) (raw value : Text)
  /-- A comment, after which the line holds nothing but blanks. -/
  | comment (raw value : Text)
  /-- A quote that the line does not close. -/
  | openQuote (quote : Char)
  deriving DecidableEq, Repr

/-- The quote signs. -/
def isQuote (c : Char) : Bool := c == '"' || c == '\''

/-- The style of a scalar in the given quotes. -/
def quoteStyle (quote : Char) : ScalarStyle :=
  if quote = '"' then .doubleQuoted else .singleQuoted

/-- A token that stands for its own text. -/
def Round.plainToken (kind : TokenKind) (raw : Text) : Round := .token kind raw raw

/-- Looks at the character `c` and what follows it. `flow` is the nesting depth of flow
    collections, `afterKey` says whether the token before can be a key that needs no blank after
    its colon, and `before` is the character before `c` on the line. -/
def round (flow : Nat) (afterKey : Bool) (before : Option Char) (c : Char) (rest : Text) : Round :=
  let inFlow : Bool := 0 < flow
  let apart := isSeparated rest || (inFlow && isBeforeFlow rest)
  let plain := .plainToken (.scalar .plain) (plainScalar inFlow (c :: rest))
  if isBlank c then .blank
  else match c with
  | '#' =>
    -- A hash begins a comment only after a blank or at the start of a line.
    if before.all isBlank then
      .comment (Text.trimEnd (c :: rest)) (Text.trim rest)
    else plain
  | '[' => .plainToken .sequenceStart [c]
  | '\x7b' => .plainToken .mappingStart [c]
  -- A closing bracket that closes nothing is stray.
  | ']' => .plainToken (if inFlow then .sequenceEnd else .invalid) [c]
  | '\x7d' => .plainToken (if inFlow then .mappingEnd else .invalid) [c]
  | ',' => if inFlow then .plainToken .collectEntry [c] else plain
  | '-' => if !inFlow && isSeparated rest then .plainToken .sequenceEntry [c] else plain
  | '?' => if apart then .plainToken .mappingKey [c] else plain
  | ':' => if apart || (inFlow && afterKey) then .plainToken .mappingValue [c] else plain
  | '&' => .token .anchor (c :: propertyName inFlow rest) (propertyName inFlow rest)
  | '*' => .token .alias (c :: propertyName inFlow rest) (propertyName inFlow rest)
  | '!' => .plainToken .tag (c :: propertyName inFlow rest)
  | '|' => if inFlow then plain else .plainToken .blockLiteral (c :: blockSigns rest)
  | '>' => if inFlow then plain else .plainToken .blockFolded (c :: blockSigns rest)
  -- These two are reserved; what is joined to them goes with them.
  | '@' => .plainToken .unknown (c :: rest.takeWhile fun d => !isBlank d)
  | '\x60' => .plainToken .unknown (c :: rest.takeWhile fun d => !isBlank d)
  | '<' =>
    match rest with
    | '<' :: after =>
      if isSeparated after || after.head? == some ':' then .plainToken .mergeKey ['<', '<']
      else plain
    | _ => plain
  | _ =>
    if isQuote c then
      match quoteLength? c rest with
      | some n => .token (.scalar (quoteStyle c)) (c :: rest.take n) (unquote c (c :: rest.take n))
      | none => .openQuote c
    else plain

/-! ### No token is empty -/

theorem trimEnd_ne_nil {c : Char} (h : isBlank c = false) (t : Text) :
    Text.trimEnd (c :: t) ≠ [] := by
  simp only [Text.trimEnd]
  cases Text.trimEnd t <;> simp [h]

/-- A plain scalar is read only where it does not end at once. -/
theorem plainScalar_ne_nil {inFlow : Bool} {c : Char} {rest : Text} (h : isBlank c = false)
    (h' : endsPlain inFlow none c rest = false) : plainScalar inFlow (c :: rest) ≠ [] := by
  simp only [plainScalar, plainReach, h', Bool.false_eq_true, if_false]
  exact trimEnd_ne_nil h _

theorem Round.token_ne_nil {flow : Nat} {afterKey : Bool} {before : Option Char} {c : Char}
    {rest : Text} {kind : TokenKind} {raw value : Text}
    (h : round flow afterKey before c rest = .token kind raw value) : raw ≠ [] := by
  unfold round at h
  simp only [Round.plainToken] at h
  split at h
  · simp at h
  · rename_i hb
    have hb' : isBlank c = false := by simpa using hb
    split at h
    all_goals (repeat' split at h)
    all_goals simp only [Round.token.injEq, reduceCtorEq] at h
    all_goals obtain ⟨_, h, _⟩ := h; subst h
    all_goals first
      | exact List.cons_ne_nil _ _
      | (apply plainScalar_ne_nil (by assumption); simp_all [endsPlain, isFlowIndicator, isQuote])

/-! ## State between lines -/

/-- A block scalar that is being read. -/
structure BlockScalar where
  /-- The indentation of the line that holds the header. -/
  parentIndent : Nat
  /-- The indentation of the content, once it is known. -/
  contentIndent : Option Nat
  deriving DecidableEq, Repr

/-- A quoted scalar that is being read. -/
structure OpenQuote where
  quote : Char
  /-- The text so far, from the opening quote on. -/
  raw : Text
  place : Place
  deriving DecidableEq, Repr

/-- What is known between two tokens. -/
structure State where
  /-- How many flow collections are open. -/
  flow : Nat
  block : Option BlockScalar
  quote : Option OpenQuote
  /-- The indentations of the enclosing lines, innermost first. -/
  indents : List Nat
  /-- The kind of the last token. -/
  last : Option TokenKind
  deriving DecidableEq, Repr

namespace State

/-- The state before the first line. -/
def start : State := ⟨0, none, none, [0], none⟩

/-- The nesting level of a line that changes no indentation. -/
def level (s : State) : Nat := s.indents.length - 1

/-- The stack of indentations with those deeper than `indent` taken off. The outermost stays. -/
def unindent (indent : Nat) : List Nat → List Nat
  | top :: next :: rest =>
    if indent < top then unindent indent (next :: rest) else top :: next :: rest
  | stack => stack

/-- The stack of indentations for a line with the given one. -/
def indentTo (indent : Nat) (stack : List Nat) : List Nat :=
  match unindent indent stack with
  | [] => []
  | top :: rest => if top < indent then indent :: top :: rest else top :: rest

/-- Whether the last token can be a key that needs no blank after its colon. -/
def isAfterKey (s : State) : Bool :=
  match s.last with
  | some (.scalar .singleQuoted) | some (.scalar .doubleQuoted) => true
  | some .sequenceEnd | some .mappingEnd => true
  | _ => false

/-- The content indentation that the header of a block scalar asks for. -/
def headerIndent? (indent : Nat) (raw : Text) : Option Nat :=
  (raw.find? Char.isDigit).map fun d => indent + (d.toNat - '0'.toNat)

/-- The state after a token on a line with the given indentation. -/
def push (s : State) (indent : Nat) (kind : TokenKind) (raw : Text) : State :=
  let s := { s with last := some kind }
  match kind with
  | .sequenceStart | .mappingStart => { s with flow := s.flow + 1 }
  | .sequenceEnd | .mappingEnd | .invalid => { s with flow := s.flow - 1 }
  | .blockLiteral | .blockFolded =>
    { s with block := some ⟨indent, headerIndent? indent raw⟩ }
  | .documentHeader => { s with flow := 0, block := none, indents := [0] }
  | .documentEnd => { s with flow := 0, block := none }
  | _ => s

end State

/-! ## Lines -/

/-- A line with its number and its distance in bytes from the start of the text. -/
structure Line where
  number : Nat
  offset : Nat
  text : Text
  deriving DecidableEq, Repr

/-- The number of spaces that a line begins with. -/
def Line.indent (l : Line) : Nat := (l.text.takeWhile (· == ' ')).length

/-- Whether a line holds nothing but blanks. -/
def Line.isBlank (l : Line) : Bool := l.text.all Unicode.isBlank

/-- Whether the first thing on a line is a hash. -/
def Line.isComment (l : Line) : Bool := (Text.trimStart l.text).head? == some '#'

/-- A place on a line: what is behind it and what is left. -/
structure Cursor where
  before : Option Char
  column : Nat
  offset : Nat
  rest : Text
  deriving DecidableEq, Repr

/-- The start of a line. -/
def Line.cursor (l : Line) : Cursor := ⟨none, 1, l.offset, l.text⟩

/-- Moves past the first `n` characters of what is left. -/
def Cursor.skip (cur : Cursor) (n : Nat) : Cursor :=
  let passed := cur.rest.take n
  { before := passed.getLast?.or cur.before
    column := cur.column + passed.length
    offset := cur.offset + Text.byteLength passed
    rest := cur.rest.drop n }

/-- A token with the number of flow collections that are open right after it. -/
structure Step where
  token : Token
  flow : Nat
  deriving DecidableEq, Repr

/-- What the tokens of a line have in common. -/
structure LineContext where
  number : Nat
  indent : Nat
  level : Nat
  deriving DecidableEq, Repr

/-- The place of a cursor. -/
def LineContext.place (ctx : LineContext) (cur : Cursor) : Place :=
  ⟨ctx.number, cur.column, cur.offset, ctx.indent, ctx.level⟩

/-- The step of a token at a place. -/
def State.step (s : State) (place : Place) (kind : TokenKind) (raw value : Text) : Step :=
  ⟨⟨kind, raw, value, kind.indicator, place⟩, (s.push place.indent kind raw).flow⟩

/-- Lexes what is left of a line. -/
def lexRest (ctx : LineContext) (s : State) (cur : Cursor) : List Step × State :=
  match _ : cur.rest with
  | [] => ([], s)
  | c :: rest =>
    match _ : round s.flow s.isAfterKey cur.before c rest with
    | .blank => lexRest ctx s (cur.skip 1)
    | .token kind raw value =>
      let (steps, s') := lexRest ctx (s.push ctx.indent kind raw) (cur.skip raw.length)
      (s.step (ctx.place cur) kind raw value :: steps, s')
    | .comment raw value =>
      ([s.step (ctx.place cur) .comment raw value], s.push ctx.indent .comment raw)
    | .openQuote quote => ([], { s with quote := some ⟨quote, c :: rest, ctx.place cur⟩ })
termination_by cur.rest.length
decreasing_by
  · simp [Cursor.skip, *]
  · have := List.length_pos_iff.2 (Round.token_ne_nil ‹_›)
    simp only [Cursor.skip, *, List.length_drop, List.length_cons]
    omega

/-! ## Beginning a line -/

/-- The state in which a line is lexed that no quote or block scalar runs into. Inside flow
    collections and on lines without content the indentation means nothing. -/
def State.enter (s : State) (line : Line) : State :=
  if s.flow = 0 ∧ !line.isBlank ∧ !line.isComment then
    { s with indents := State.indentTo line.indent s.indents }
  else s

/-- What the tokens of a line have in common, given the state in which it is lexed. -/
def State.context (s : State) (line : Line) : LineContext := ⟨line.number, line.indent, s.level⟩

/-- How a line is begun, before it is known what else is on it. -/
inductive Opening where
  /-- The line has been read as a whole. -/
  | read (steps : List Step) (s : State)
  /-- There may be more after the first `passed` characters and the tokens that end there. -/
  | enter (steps : List Step) (ctx : LineContext) (s : State) (passed : Nat)

/-- A line that nothing runs into may begin with a directive or a marker. -/
def openFresh (s : State) (line : Line) : Opening :=
  let s := s.enter line
  let ctx := s.context line
  match lineStart? line.text with
  | none => .enter [] ctx s 0
  | some (kind, raw) =>
    .enter [s.step (ctx.place line.cursor) kind raw raw] ctx (s.push line.indent kind raw)
      raw.length

/-- A quote that is open may be closed on the line, or take all of it. -/
def openQuoted (s : State) (line : Line) (q : OpenQuote) : Opening :=
  match quoteLength? q.quote line.text with
  | none => .read [] { s with quote := some { q with raw := q.raw ++ '\n' :: line.text } }
  | some n =>
    let raw := q.raw ++ '\n' :: line.text.take n
    let kind := .scalar (quoteStyle q.quote)
    let s := { s with quote := none }
    .enter [s.step q.place kind raw (unquote q.quote raw)] (s.context line)
      (s.push line.indent kind raw) n

/-- The content indentation of a block scalar, given the indentation of a line that is not blank:
    the first such line that is deeper than the header fixes it. -/
def BlockScalar.indentAt (b : BlockScalar) (indent : Nat) : Option Nat :=
  match b.contentIndent with
  | some n => some n
  | none => if b.parentIndent < indent then some indent else none

/-- Whether a line with the given indentation is content of a block scalar. -/
def BlockScalar.Takes (b : BlockScalar) (indent : Nat) : Prop :=
  ∃ n, b.indentAt indent = some n ∧ n ≤ indent

/-- A block scalar takes all of a line or none of it. A line that is too far left ends the scalar
    and is begun as any other. -/
def openBlock (s : State) (line : Line) (b : BlockScalar) : Opening :=
  if line.isBlank then .read [] s
  else
    match b.indentAt line.indent with
    | none => openFresh { s with block := none } line
    | some n =>
      if n ≤ line.indent then
        let s := { s with block := some { b with contentIndent := some n } }
        let raw := line.text.drop n
        let place := (s.context line).place (line.cursor.skip n)
        .read [s.step place .blockContent raw raw] (s.push line.indent .blockContent raw)
      else openFresh { s with block := none } line

def openLine (s : State) (line : Line) : Opening :=
  match s.quote, s.block with
  | some q, _ => openQuoted s line q
  | none, some b => openBlock s line b
  | none, none => openFresh s line

/-! ## Lexing a line -/

/-- Lexes what is left of a line that has been begun. -/
def Opening.lex (line : Line) : Opening → List Step × State
  | .read steps s => (steps, s)
  | .enter steps ctx s passed =>
    let (steps', s') := lexRest ctx s (line.cursor.skip passed)
    (steps ++ steps', s')

/-- Lexes a line. -/
def lexLine (s : State) (line : Line) : List Step × State := (openLine s line).lex line

/-- Lexes a line that no quote or block scalar runs into. -/
def lexFresh (s : State) (line : Line) : List Step × State := (openFresh s line).lex line

/-- Lexes a line while a quote is open. -/
def lexQuoted (s : State) (line : Line) (q : OpenQuote) : List Step × State :=
  (openQuoted s line q).lex line

/-- Lexes a line while a block scalar is being read. -/
def lexBlock (s : State) (line : Line) (b : BlockScalar) : List Step × State :=
  (openBlock s line b).lex line

section lex

variable {s : State} {line : Line} {q : OpenQuote} {b : BlockScalar} {n : Nat}

theorem lexFresh_of_none (h : lineStart? line.text = none) :
    lexFresh s line = lexRest ((s.enter line).context line) (s.enter line) line.cursor := by
  rw [lexFresh, openFresh, h]
  rfl

/-- A directive or a marker comes before the rest of its line. -/
theorem lexFresh_of_some {kind : TokenKind} {raw : Text}
    (h : lineStart? line.text = some (kind, raw)) :
    let s' := s.enter line
    let result := lexRest (s'.context line) (s'.push line.indent kind raw)
      (line.cursor.skip raw.length)
    lexFresh s line =
      (s'.step ((s'.context line).place line.cursor) kind raw raw :: result.1, result.2) := by
  rw [lexFresh, openFresh, h]
  rfl

theorem lexQuoted_of_none (h : quoteLength? q.quote line.text = none) : lexQuoted s line q =
    ([], { s with quote := some { q with raw := q.raw ++ '\n' :: line.text } }) := by
  rw [lexQuoted, openQuoted, h]
  rfl

/-- The token of a quote that is closed comes before the rest of the line. -/
theorem lexQuoted_of_some (h : quoteLength? q.quote line.text = some n) :
    let s' : State := { s with quote := none }
    let kind := .scalar (quoteStyle q.quote)
    let raw := q.raw ++ '\n' :: line.text.take n
    let result := lexRest (s'.context line) (s'.push line.indent kind raw) (line.cursor.skip n)
    lexQuoted s line q =
      (s'.step q.place kind raw (unquote q.quote raw) :: result.1, result.2) := by
  rw [lexQuoted, openQuoted, h]
  rfl

theorem lexBlock_of_isBlank (h : line.isBlank = true) : lexBlock s line b = ([], s) := by
  rw [lexBlock, openBlock, if_pos h]
  rfl

section content

variable (hblank : line.isBlank = false)
include hblank

/-- A line of content is one token. -/
theorem lexBlock_of_le (hindent : b.indentAt line.indent = some n) (hle : n ≤ line.indent) :
    let s' := { s with block := some { b with contentIndent := some n } }
    let raw := line.text.drop n
    let place := (s'.context line).place (line.cursor.skip n)
    lexBlock s line b = ([s'.step place .blockContent raw raw],
      s'.push line.indent .blockContent raw) := by
  simp only [lexBlock, openBlock, hblank, hindent, hle, if_true, Bool.false_eq_true, if_false]
  rfl

/-- Any other line that is not blank is lexed as if there were no scalar. -/
theorem lexBlock_of_not_takes (h : ¬ b.Takes line.indent) :
    lexBlock s line b = lexFresh { s with block := none } line := by
  rw [lexBlock, openBlock, if_neg (ne_true_of_eq_false hblank), lexFresh]
  cases hindent : b.indentAt line.indent with
  | none => rfl
  | some n =>
    dsimp only
    rw [if_neg fun hle => h ⟨n, hindent, hle⟩]

end content

theorem lexLine_eq_lexQuoted (h : s.quote = some q) : lexLine s line = lexQuoted s line q := by
  rw [lexLine, openLine, h, lexQuoted]

theorem lexLine_eq_lexBlock (hquote : s.quote = none) (hblock : s.block = some b) :
    lexLine s line = lexBlock s line b := by
  rw [lexLine, openLine, hquote, hblock, lexBlock]

theorem lexLine_of_none (hquote : s.quote = none) (hblock : s.block = none) :
    lexLine s line = lexFresh s line := by
  rw [lexLine, openLine, hquote, hblock, lexFresh]

end lex

/-! ## Texts -/

/-- The token for a quote that is never closed. -/
def State.unclosed (s : State) : List Step :=
  match s.quote with
  | none => []
  | some q =>
    let raw := (q.raw.reverse.dropWhile (· == '\n')).reverse
    [⟨⟨.invalid, raw, raw, .quotedScalar, q.place⟩, s.flow⟩]

/-- Lexes lines, the first of which has the given number and distance from the start. -/
def lexLines (s : State) (number offset : Nat) : List Text → List Step
  | [] => s.unclosed
  | text :: rest =>
    let (steps, s') := lexLine s ⟨number, offset, text⟩
    steps ++ lexLines s' (number + 1) (offset + Text.byteLength text + 1) rest

/-- The tokens of a text, each with the number of flow collections open after it. -/
def steps (t : Text) : List Step := lexLines .start 1 0 (Text.splitLines t)

/-- The tokens of a text. -/
def tokenize (t : Text) : List Token := (steps t).map (·.token)

end Lexer

end YamlListing.Yaml

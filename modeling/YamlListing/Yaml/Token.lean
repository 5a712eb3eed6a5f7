import YamlListing.Position
import YamlListing.Text.Basic

set_option autoImplicit false

/-! # Tokens

What the lexer cuts a YAML text into. A token keeps the exact text that it covers, so its end follows
from its start. -/

namespace YamlListing.Yaml

/-- How a scalar is written. -/
inductive ScalarStyle where
  | plain
  | singleQuoted
  | doubleQuoted
  deriving DecidableEq, Repr

/-- What a token is. -/
inductive TokenKind where
  /-- A line that begins with `%`. -/
  | directive
  /-- The marker that opens a document. -/
  | documentHeader
  /-- The marker that closes a document. -/
  | documentEnd
  | comment
  | sequenceEntry
  | mappingKey
  | mappingValue
  | collectEntry
  | sequenceStart
  | sequenceEnd
  | mappingStart
  | mappingEnd
  | anchor
  | alias
  | tag
  | mergeKey
  /-- The header of a literal block scalar. -/
  | blockLiteral
  /-- The header of a folded block scalar. -/
  | blockFolded
  /-- One line of a block scalar, without its indentation. -/
  | blockContent
  | scalar (style : ScalarStyle)
  /-- Malformed input: a quote that is never closed, a stray closing bracket. -/
  | invalid
  /-- A word that begins with a reserved character. -/
  | unknown
  deriving DecidableEq, Repr

/-- The class of the character that introduces a token. -/
inductive Indicator where
  /-- No indicator: plain scalars and block content. -/
  | none
  | blockStructure
  | flowCollection
  | comment
  | nodeProperty
  | blockScalar
  | quotedScalar
  | directive
  | reserved
  deriving DecidableEq, Repr

/-- The indicator class that goes with a kind of token. -/
def TokenKind.indicator : TokenKind → Indicator
  | .directive | .documentHeader | .documentEnd => .directive
  | .comment => .comment
  | .sequenceEntry | .mappingKey | .mappingValue => .blockStructure
  | .collectEntry | .sequenceStart | .sequenceEnd | .mappingStart | .mappingEnd => .flowCollection
  | .anchor | .alias | .tag => .nodeProperty
  | .blockLiteral | .blockFolded => .blockScalar
  | .scalar .singleQuoted | .scalar .doubleQuoted => .quotedScalar
  | .unknown => .reserved
  | .mergeKey | .blockContent | .scalar .plain | .invalid => .none

/-- Where a token starts: its line and column, its distance in bytes from the start of the text,
    and the indentation and nesting level of its line. -/
structure Place where
  line : Nat
  column : Nat
  offset : Nat
  indent : Nat
  level : Nat
  deriving DecidableEq, Repr, Inhabited

/-- The line and column of a place. -/
def Place.position (p : Place) : Position := ⟨p.line, p.column⟩

/-- A token. -/
structure Token where
  kind : TokenKind
  /-- Exactly the text that the token covers; only a quoted scalar may span lines. -/
  raw : Text
  /-- What the token stands for: the content of a quoted scalar, the name of an anchor or alias,
      the body of a comment, and otherwise its text. -/
  value : Text
  indicator : Indicator
  place : Place
  deriving DecidableEq, Repr

namespace Token

/-- The position reached by reading a text from a position on: a line feed leads to the start of
    the next line, any other character one column further. -/
def advance (p : Position) : Text → Position
  | [] => p
  | c :: cs => advance (if c = '\n' then .lineStart (p.line + 1) else ⟨p.line, p.column + 1⟩) cs

/-- The position after the last character of a token. -/
def stop (t : Token) : Position := advance t.place.position t.raw

end Token

end YamlListing.Yaml

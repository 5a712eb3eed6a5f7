import YamlListing.Span
import YamlListing.Yaml.Lexer

set_option autoImplicit false

/-! # Classified segments

A segment is a stretch of a text with the category that it belongs to. `Segment.ofTokens` reads the
segments off a list of tokens in one pass, looking at the token before and the tokens after each:
that is enough to tell keys from values, and to find mapping values that were left empty. Such an
implicit null is a segment without width, right after its colon. -/

namespace YamlListing.Yaml

/-- A stretch of text and its category. -/
structure Segment where
  span : Span
  category : Category
  /-- The text that the span covers. -/
  raw : Text
  deriving DecidableEq, Repr

namespace Segment

/-! ## Categories of tokens -/

/-- The category of a directive: only two directives are known. -/
def directiveCategory (raw : Text) : Category :=
  if isWord ["%YAML", "%TAG"] (Text.firstWord raw) then .commentPreproc else .genericErrorUnknown

/-- Whether a scalar is a key: a colon follows on the line where it ends, or a question mark comes
    before it. -/
def isKey (before : Option Token) (token : Token) (after : List Token) : Bool :=
  after.head?.any (fun next => next.kind == .mappingValue && next.place.line == token.stop.line) ||
    before.any (fun previous => previous.kind == .mappingKey)

/-- The category of a scalar that is not a key. -/
def scalarCategory (style : ScalarStyle) (raw : Text) : Category :=
  match style with
  | .doubleQuoted => .literalStringDouble
  | .singleQuoted => .literalStringSingle
  | .plain => plainCategory raw

/-- The category of a token between its neighbours. -/
def categoryOf (before : Option Token) (token : Token) (after : List Token) : Category :=
  match token.kind with
  | .directive => directiveCategory token.raw
  | .documentHeader | .documentEnd => .punctuationHeading
  | .comment => .comment
  | .sequenceEntry => .punctuationSequenceEntry
  | .mappingKey => .punctuation
  | .mappingValue => .punctuationMappingValue
  | .collectEntry => .punctuationCollectEntry
  | .sequenceStart => .punctuationSequenceStart
  | .sequenceEnd => .punctuationSequenceEnd
  | .mappingStart => .punctuationMappingStart
  | .mappingEnd => .punctuationMappingEnd
  | .anchor => .nameAnchor
  | .alias => .nameAlias
  | .tag => .nameDecorator
  | .mergeKey => .nameAliasMerge
  | .blockLiteral => .punctuationBlockLiteral
  | .blockFolded => .punctuationBlockFolded
  | .blockContent => .literalString
  | .invalid => .genericErrorInvalid
  | .unknown => .genericErrorUnknown
  | .scalar style =>
    if isKey before token after then .nameTag else scalarCategory style token.raw

/-! ## Empty values -/

/-- The column where the entry of a colon begins: that of the token before it if that token ends on
    the line of the colon, and otherwise that of the colon. -/
def keyColumn (before : Option Token) (colon : Token) : Nat :=
  match before with
  | some key => if key.stop.line = colon.place.line then key.place.column else colon.place.column
  | none => colon.place.column

/-- Whether the value after a colon is left empty. Inside a flow collection it is if the collection
    or the entry ends next; elsewhere if the next token, comments apart, lies on a later line and
    not further right than the entry of the colon. A sequence may begin right below its key. -/
def isValueMissing (before : Option Token) (colon : Token) (after : List Token) (inFlow : Bool) :
    Bool :=
  match after.find? (fun t => t.kind != .comment) with
  | none => true
  | some next =>
    match next.kind with
    | .documentHeader | .documentEnd => true
    | kind =>
      if inFlow then kind == .collectEntry || kind == .mappingEnd || kind == .sequenceEnd
      else if next.place.line = colon.place.line then false
      else if kind = .sequenceEntry then next.place.column < keyColumn before colon
      else next.place.column ≤ keyColumn before colon

/-- The segment of an implicit null after a colon. -/
def implicitNull (colon : Token) : Segment :=
  ⟨.empty ⟨colon.place.line, colon.place.column + 1⟩, .literalNullImplicit, []⟩

/-! ## The pass -/

/-- The number of open flow collections after a token. -/
def flowAfter (flow : Nat) : TokenKind → Nat
  | .sequenceStart | .mappingStart => flow + 1
  | .sequenceEnd | .mappingEnd => flow - 1
  | .documentHeader | .documentEnd => 0
  | _ => flow

/-- The segments of a token: its own, and after a colon that of a missing value. -/
def ofToken (before : Option Token) (flow : Nat) (token : Token) (after : List Token) :
    List Segment :=
  let own : Segment :=
    ⟨.between token.place.position token.stop, categoryOf before token after, token.raw⟩
  if token.kind = .mappingValue ∧ isValueMissing before token after (0 < flow) then
    [own, implicitNull token]
  else [own]

/-- The segments of tokens that follow a given one, `flow` collections being open. -/
def ofTokensFrom (before : Option Token) (flow : Nat) : List Token → List Segment
  | [] => []
  | token :: after =>
    let flow := flowAfter flow token.kind
    ofToken before flow token after ++ ofTokensFrom (some token) flow after

/-- The segments of a list of tokens. -/
def ofTokens (tokens : List Token) : List Segment := ofTokensFrom none 0 tokens

/-- The segments of a text. -/
def ofText (t : Text) : List Segment := ofTokens (Lexer.tokenize t)

end Segment

end YamlListing.Yaml

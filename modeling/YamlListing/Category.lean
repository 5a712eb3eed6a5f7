set_option autoImplicit false

/-! # Categories

Every classified piece of a document and every aid of its presentation (change marks, search hits,
gutters) belongs to a category. The categories form a tree with root `Category.text`: one that a
theme leaves undefined looks like its parent. They are listed parents before children
(`Category.parent_lt`), so that a single pass over `Category.all` can resolve the whole tree. -/

namespace YamlListing

/-- A class of text that can have a style of its own. -/
inductive Category where
  /-- Unclassified text and white space: the root of the tree. -/
  | text
  | comment
  /-- A directive that is known. -/
  | commentPreproc
  | literal
  | literalBoolean
  | literalNull
  /-- A mapping value left empty. It has no width, so only a transform can show it. -/
  | literalNullImplicit
  | literalNumber
  | literalNumberBin
  | literalNumberOct
  | literalNumberHex
  | literalNumberInteger
  | literalNumberFloat
  | literalNumberInfinity
  | literalNumberNaN
  | literalString
  | literalStringDouble
  | literalStringSingle
  | name
  | nameAnchor
  | nameAlias
  /-- The merge key. -/
  | nameAliasMerge
  /-- A mapping key. -/
  | nameTag
  /-- A tag. -/
  | nameDecorator
  | generic
  | genericInserted
  | genericDeleted
  | genericError
  | genericErrorInvalid
  | genericErrorUnknown
  | punctuation
  | punctuationBlock
  | punctuationBlockFolded
  | punctuationBlockLiteral
  | punctuationCollectEntry
  /-- A document marker. -/
  | punctuationHeading
  | punctuationMapping
  | punctuationMappingStart
  | punctuationMappingEnd
  | punctuationMappingValue
  | punctuationSequence
  | punctuationSequenceStart
  | punctuationSequenceEntry
  | punctuationSequenceEnd
  | textAccent
  | textAccentDim
  | textSubtle
  | textSubtleDim
  /-- Search hits and other call-outs. -/
  | highlight
  | dim
  | title
  | titleOk
  | titleWarn
  | titleError
  | titleAccent
  | titleSubtle
  deriving DecidableEq, Repr

namespace Category

/-- Every category, parents before children. -/
def all : List Category :=
  [.text, .comment, .commentPreproc, .literal, .literalBoolean, .literalNull,
   .literalNullImplicit, .literalNumber, .literalNumberBin, .literalNumberOct, .literalNumberHex,
   .literalNumberInteger, .literalNumberFloat, .literalNumberInfinity, .literalNumberNaN,
   .literalString, .literalStringDouble, .literalStringSingle, .name, .nameAnchor, .nameAlias,
   .nameAliasMerge, .nameTag, .nameDecorator, .generic, .genericInserted, .genericDeleted,
   .genericError, .genericErrorInvalid, .genericErrorUnknown, .punctuation, .punctuationBlock,
   .punctuationBlockFolded, .punctuationBlockLiteral, .punctuationCollectEntry,
   .punctuationHeading, .punctuationMapping, .punctuationMappingStart, .punctuationMappingEnd,
   .punctuationMappingValue, .punctuationSequence, .punctuationSequenceStart,
   .punctuationSequenceEntry, .punctuationSequenceEnd, .textAccent, .textAccentDim, .textSubtle,
   .textSubtleDim, .highlight, .dim, .title, .titleOk, .titleWarn, .titleError, .titleAccent,
   .titleSubtle]

/-- The name of a category, as themes and settings spell it. -/
def toName : Category → String
  | .text => "text"
  | .comment => "comment"
  | .commentPreproc => "comment-preproc"
  | .literal => "literal"
  | .literalBoolean => "literal-boolean"
  | .literalNull => "literal-null"
  | .literalNullImplicit => "literal-null-implicit"
  | .literalNumber => "literal-number"
  | .literalNumberBin => "literal-number-bin"
  | .literalNumberOct => "literal-number-oct"
  | .literalNumberHex => "literal-number-hex"
  | .literalNumberInteger => "literal-number-integer"
  | .literalNumberFloat => "literal-number-float"
  | .literalNumberInfinity => "literal-number-infinity"
  | .literalNumberNaN => "literal-number-nan"
  | .literalString => "literal-string"
  | .literalStringDouble => "literal-string-double"
  | .literalStringSingle => "literal-string-single"
  | .name => "name"
  | .nameAnchor => "name-anchor"
  | .nameAlias => "name-alias"
  | .nameAliasMerge => "name-alias-merge"
  | .nameTag => "name-tag"
  | .nameDecorator => "name-decorator"
  | .generic => "generic"
  | .genericInserted => "generic-inserted"
  | .genericDeleted => "generic-deleted"
  | .genericError => "generic-error"
  | .genericErrorInvalid => "generic-error-invalid"
  | .genericErrorUnknown => "generic-error-unknown"
  | .punctuation => "punctuation"
  | .punctuationBlock => "punctuation-block"
  | .punctuationBlockFolded => "punctuation-block-folded"
  | .punctuationBlockLiteral => "punctuation-block-literal"
  | .punctuationCollectEntry => "punctuation-collect-entry"
  | .punctuationHeading => "punctuation-heading"
  | .punctuationMapping => "punctuation-mapping"
  | .punctuationMappingStart => "punctuation-mapping-start"
  | .punctuationMappingEnd => "punctuation-mapping-end"
  | .punctuationMappingValue => "punctuation-mapping-value"
  | .punctuationSequence => "punctuation-sequence"
  | .punctuationSequenceStart => "punctuation-sequence-start"
  | .punctuationSequenceEntry => "punctuation-sequence-entry"
  | .punctuationSequenceEnd => "punctuation-sequence-end"
  | .textAccent => "text-accent"
  | .textAccentDim => "text-accent-dim"
  | .textSubtle => "text-subtle"
  | .textSubtleDim => "text-subtle-dim"
  | .highlight => "highlight"
  | .dim => "dim"
  | .title => "title"
  | .titleOk => "title-ok"
  | .titleWarn => "title-warn"
  | .titleError => "title-error"
  | .titleAccent => "title-accent"
  | .titleSubtle => "title-subtle"

/-- The parent of a category. The root is its own parent. -/
def parent : Category → Category
  | .text | .comment | .literal | .name | .generic | .punctuation | .textAccent
  | .textSubtle | .highlight | .dim | .title => .text
  | .commentPreproc => .comment
  | .literalBoolean | .literalNull | .literalNumber | .literalString => .literal
  | .literalNullImplicit => .literalNull
  | .literalNumberBin | .literalNumberOct | .literalNumberHex | .literalNumberInteger
  | .literalNumberFloat | .literalNumberInfinity | .literalNumberNaN => .literalNumber
  | .literalStringDouble | .literalStringSingle => .literalString
  | .nameAnchor | .nameAlias | .nameTag | .nameDecorator => .name
  | .nameAliasMerge => .nameAlias
  | .genericInserted | .genericDeleted | .genericError => .generic
  | .genericErrorInvalid | .genericErrorUnknown => .genericError
  | .punctuationBlock | .punctuationCollectEntry | .punctuationHeading
  | .punctuationMapping | .punctuationSequence => .punctuation
  | .punctuationBlockFolded | .punctuationBlockLiteral => .punctuationBlock
  | .punctuationMappingStart | .punctuationMappingEnd | .punctuationMappingValue => .punctuationMapping
  | .punctuationSequenceStart | .punctuationSequenceEntry | .punctuationSequenceEnd => .punctuationSequence
  | .textAccentDim => .textAccent
  | .textSubtleDim => .textSubtle
  | .titleOk | .titleWarn | .titleError | .titleAccent | .titleSubtle => .title

/-- The place of a category in `all`. -/
def index (c : Category) : Nat := c.ctorIdx

/-- Whether a category is the root. -/
def isRoot (c : Category) : Bool := c == .text

/-- The category with a given name. -/
def ofName? (s : String) : Option Category := all.find? (fun c => c.toName == s)

theorem all_getElem?_index (c : Category) : all[c.index]? = some c := by cases c <;> rfl

/-- Every category but the root comes after its parent. -/
theorem parent_lt {c : Category} (h : c.isRoot = false) : c.parent.index < c.index := by
  cases c <;> first | exact absurd h (by decide) | decide

/-- The parents of a category, from its own up to the root. -/
def ancestors (c : Category) : List Category :=
  if _ : c.isRoot = false then c.parent :: c.parent.ancestors else []
termination_by c.index
decreasing_by exact parent_lt ‹_›

/-- Whether a category is another one or descends from it. -/
def isA (c other : Category) : Bool := c == other || c.ancestors.contains other

end Category

end YamlListing

import YamlListing.Unicode.Cluster
import YamlListing.Unicode.WidthTables

set_option autoImplicit false

/-! # Display widths

How many columns of a terminal a grapheme cluster takes. Usually these are the widths of its
characters together. An emoji sequence takes two columns however many characters it has, a text
variation selector narrows an emoji, a Khmer letter below another takes no column, and a vowel of the
Kirat Rai script takes one column even if it is spelled as several. -/

namespace YamlListing.Unicode

/-- The columns of a character on its own. -/
def charWidth (c : Char) : Nat :=
  if c.toNat ≤ 0xA0 then 1
  else if c = '\u17d8' then 3
  else if zeroWidth.mem c then 0
  else if doubleWidth.mem c then 2
  else 1

/-- What follows a character in its cluster, as far as it changes the width of that character. -/
inductive Following where
  | nothing
  | lineFeed
  /-- A complete emoji. -/
  | emoji
  /-- A joiner and a complete emoji. -/
  | joinedEmoji
  /-- An emoji modifier. -/
  | modifier
  /-- A selector that asks for an emoji; perhaps a joiner and an emoji come after it. -/
  | emojiSelector (joined : Bool)
  /-- A selector that asks for text. -/
  | textSelector
  /-- A Khmer letter that can stand below another. -/
  | khmerLetter
  /-- The last part of a Kirat Rai vowel. -/
  | kiratVowel
  deriving DecidableEq, Repr

/-- Whether a Khmer letter can stand below another. -/
def isKhmerSubscript (c : Char) : Bool :=
  [(0x1780, 0x1782), (0x1784, 0x1787), (0x1789, 0x178C), (0x178E, 0x1793), (0x1795, 0x1798),
    (0x179B, 0x179D), (0x17A0, 0x17A0), (0x17A2, 0x17A2), (0x17A7, 0x17A7), (0x17AB, 0x17AC),
    (0x17AF, 0x17AF)].any fun (first, last) => isBetween first last c.toNat

/-- Whether a character is a vowel of the Kirat Rai script. -/
def isKiratVowel (c : Char) : Bool := c.toNat == 0x16D63 || isBetween 0x16D67 0x16D6A c.toNat

/-- Whether a character stands before a text variation selector as text. -/
def isTextCapable (c : Char) : Bool :=
  emojiByDefault.mem c && !isBetween 0x1F200 0x1F2FF c.toNat

/-- What a character is to the one before it. -/
def following (c : Char) : Following :=
  if c = '\n' then .lineFeed
  else if isModifier c then .modifier
  else if emojiByDefault.mem c then .emoji
  else if isKhmerSubscript c then .khmerLetter
  else if isKiratVowel c then .kiratVowel
  else .nothing

/-- The columns that a character adds before what follows it, and what it is to the one before it
    in turn. -/
def widthBefore (next : Following) (c : Char) : Int × Following :=
  if c = '\ufe0f' then
    (0, .emojiSelector (next == .joinedEmoji || next == .emojiSelector true))
  else if c = '\ufe0e' then (0, .textSelector)
  else
    let alone : Int × Following := (charWidth c, following c)
    match next with
    | .emojiSelector joined =>
      if emojiCapable.mem c then (if joined then 0 else 2, .emoji) else alone
    | .textSelector => if isTextCapable c then (1, .nothing) else alone
    | .lineFeed => if c = '\r' then (0, .nothing) else alone
    | .emoji => if c = '\u200d' then (0, .joinedEmoji) else alone
    | .joinedEmoji => if emojiByDefault.mem c then (0, .emoji) else alone
    | .modifier => if modifierBases.mem c then (0, .emoji) else alone
    | .khmerLetter => if c = '\u17d2' then (-1, .nothing) else alone
    | .kiratVowel => if isKiratVowel c then (0, .kiratVowel) else alone
    | .nothing => alone

/-- The columns of a text, and what its first character is to one before it. -/
def widthFrom : Text → Int × Following
  | [] => (0, .nothing)
  | c :: rest =>
    let (width, next) := widthFrom rest
    let (own, next) := widthBefore next c
    (own + width, next)

/-- The columns that a grapheme cluster takes. -/
def clusterWidth (t : Text) : Nat := (widthFrom t).1.toNat

end YamlListing.Unicode

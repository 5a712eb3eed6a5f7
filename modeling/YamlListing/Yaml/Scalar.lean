import YamlListing.Category
import YamlListing.Text.Basic

set_option autoImplicit false

/-! # Scalars

`unquote` reads the content of a quoted scalar. Its line breaks fold to single spaces; in double
quotes `unescape` decodes the backslash sequences, and in single quotes a doubled quote stands for
one.

`plainCategory` says what a plain scalar is: a null, a boolean, a number of some notation, or a
string. -/

namespace YamlListing.Yaml

open Unicode (isBlank)

/-! ## Quoted scalars -/

/-- The value of a hexadecimal digit. -/
def hexDigit? (c : Char) : Option Nat :=
  if '0' ≤ c ∧ c ≤ '9' then some (c.toNat - '0'.toNat)
  else if 'a' ≤ c ∧ c ≤ 'f' then some (c.toNat - 'a'.toNat + 10)
  else if 'A' ≤ c ∧ c ≤ 'F' then some (c.toNat - 'A'.toNat + 10)
  else none

/-- The number that hexadecimal digits write, given the value of those before them. -/
def hexNumberFrom (before : Nat) : Text → Option Nat
  | [] => some before
  | c :: cs => (hexDigit? c).bind fun d => hexNumberFrom (16 * before + d) cs

/-- The number that a text writes in hexadecimal: at least one digit, with a plus sign before it
    or none. -/
def hexNumber? : Text → Option Nat
  | [] => none
  | '+' :: c :: cs => hexNumberFrom 0 (c :: cs)
  | cs => hexNumberFrom 0 cs

/-- The character with a given number, if there is one. -/
def charOfNumber? (n : Nat) : Option Char :=
  if n.isValidChar then some (Char.ofNat n) else none

/-- The character that a one-letter escape stands for. -/
def letterEscape? : Char → Option Char
  | '0' => some '\x00'
  | 'a' => some '\x07'
  | 'b' => some '\x08'
  | 't' | '\t' => some '\t'
  | 'n' => some '\n'
  | 'v' => some '\x0b'
  | 'f' => some '\x0c'
  | 'r' => some '\r'
  | 'e' => some '\x1b'
  | ' ' => some ' '
  | '"' => some '"'
  | '/' => some '/'
  | '\\' => some '\\'
  | 'N' => some '\u0085'
  | '_' => some '\u00a0'
  | 'L' => some '\u2028'
  | 'P' => some '\u2029'
  | _ => none

/-- The number of characters after the letter that a numeric escape takes for its digits. -/
def escapeWidth? : Char → Option Nat
  | 'x' => some 2
  | 'u' => some 4
  | 'U' => some 8
  | _ => none

/-- Decodes backslash sequences. A numeric escape takes the characters in the place of its digits
    even if they write no character; such an escape, like one that is not known, leaves its
    backslash and its letter. -/
def unescape : Text → Text
  | [] => []
  | '\\' :: [] => ['\\']
  | '\\' :: letter :: rest =>
    match escapeWidth? letter with
    | some width =>
      (match (hexNumber? (rest.take width)).bind charOfNumber? with
        | some c => [c]
        | none => ['\\', letter]) ++ unescape (rest.drop width)
    | none =>
      match letterEscape? letter with
      | some c => c :: unescape rest
      | none => '\\' :: letter :: unescape rest
  | c :: rest => c :: unescape rest
termination_by t => t.length
decreasing_by
  all_goals simp only [List.length_cons, List.length_drop]; omega

/-- Reads every doubled single quote as one. -/
def undouble : Text → Text
  | '\'' :: '\'' :: rest => '\'' :: undouble rest
  | c :: rest => c :: undouble rest
  | [] => []

/-- Folds the line breaks of a quoted scalar: the blanks around each are dropped, and a single space
    takes its place. Blanks before the end of the scalar are dropped as well. -/
def fold (t : Text) : Text :=
  match Text.splitLines t with
  | [] => []
  | first :: rest => Text.joinWith [' '] (Text.trimEnd first :: rest.map Text.trim)

/-- The text between the quotes of a quoted scalar; all of it if the quotes are not there. -/
def inner (quote : Char) (raw : Text) : Text :=
  match raw with
  | c :: rest => if c = quote then (Text.dropLast? quote rest).getD raw else raw
  | [] => []

/-- The content of a quoted scalar. -/
def unquote (quote : Char) (raw : Text) : Text :=
  let folded := fold (inner quote raw)
  if quote = '\'' then undouble folded else unescape folded

/-! ## Plain scalars -/

/-- A text without a leading sign. -/
def dropSign : Text → Text
  | '+' :: rest => rest
  | '-' :: rest => rest
  | t => t

/-- Whether a text is nonempty and every character passes a test. -/
def isRun (p : Char → Bool) (t : Text) : Bool := !t.isEmpty && t.all p

/-- A decimal digit, or an underscore between digits. -/
def isDigitOrUnderscore (c : Char) : Bool := c.isDigit || c == '_'

/-- Whether a text is a number after the given two-letter mark of its base, with or without a
    sign. -/
def isBased (mark : Char) (digit : Char → Bool) (t : Text) : Bool :=
  match dropSign t with
  | '0' :: c :: digits => c == mark && isRun (fun d => digit d || d == '_') digits
  | _ => false

/-- Whether a text is a decimal integer without a sign. -/
def isDigits : Text → Bool
  | c :: rest => c.isDigit && rest.all isDigitOrUnderscore
  | [] => false

/-- Whether a text is the exponent of a number, or empty. -/
def isExponent : Text → Bool
  | [] => true
  | c :: rest => (c == 'e' || c == 'E') && isRun Char.isDigit (dropSign rest)

/-- Whether a text is a decimal number without a sign: a point and digits, or digits that a point
    and more digits may follow; then an exponent or nothing. -/
def isDecimal : Text → Bool
  | '.' :: rest =>
    !(rest.takeWhile Char.isDigit).isEmpty && isExponent (rest.dropWhile Char.isDigit)
  | c :: rest =>
    c.isDigit &&
      (match rest.dropWhile isDigitOrUnderscore with
        | '.' :: fraction => isExponent (fraction.dropWhile isDigitOrUnderscore)
        | other => isExponent other)
  | [] => false

/-- Whether a text is one of the given words. -/
def isWord (words : List String) (t : Text) : Bool := words.any (fun w => w.toList == t)

/-- The category of a plain scalar that is not a key. -/
def plainCategory (t : Text) : Category :=
  if isWord ["~", "null", "Null", "NULL"] t then .literalNull
  else if isWord ["true", "True", "TRUE", "false", "False", "FALSE"] t then .literalBoolean
  else if isBased 'b' (fun c => c == '0' || c == '1') t then .literalNumberBin
  else if isBased 'o' (fun c => '0' ≤ c && c ≤ '7') t then .literalNumberOct
  else if isBased 'x' (fun c => (hexDigit? c).isSome) t then .literalNumberHex
  else if isDigits (dropSign t) then .literalNumberInteger
  else if isDecimal (dropSign t) then .literalNumberFloat
  else if isWord [".inf", ".Inf", ".INF"] (dropSign t) then .literalNumberInfinity
  else if isWord [".nan", ".NaN", ".NAN"] t then .literalNumberNaN
  else .literalString

end YamlListing.Yaml

import YamlListing.Settings.Toml.Value
import YamlListing.Text.Scan
import YamlListing.Yaml.Scalar

set_option autoImplicit false

/-! # Keys and simple values in TOML

Blanks, comments, strings, numbers and dates, each as a scan that takes it off the front of a text. -/

namespace YamlListing.Toml

open Scan

/-! ## Blanks and comments -/

/-- Whether a character is a blank inside a line. -/
def isSpace (c : Char) : Bool := c == ' ' || c == '\t'

/-- Whether a character may stand in a comment: any but the controls other than the tab. -/
def isPlain (c : Char) : Bool := c == '\t' || (0x20 ≤ c.toNat && c != '\x7f')

/-- Blanks. -/
def spaces : Scan Text := Scan.span isSpace

/-- The end of a line: a line feed, perhaps with a carriage return before it. -/
def newline : Scan Unit := exactly ['\n'] <|> exactly ['\r', '\n']

/-- A comment, up to the end of its line. -/
def comment : Scan Unit := do
  let _ ← sign '#'
  let _ ← Scan.span isPlain

/-- What may follow the last part of a line, and its end. -/
def lineEnd : Scan Unit := do
  let _ ← spaces
  let _ ← optional comment
  newline <|> finish

/-- Blanks, ends of lines and comments. -/
def blanks : Scan Unit := do
  let _ ← many ((do let _ ← one isSpace) <|> newline <|> comment)

/-! ## Strings -/

/-- The character that a hexadecimal number stands for. -/
def charOfHex? (digits : Text) : Option Char := do
  let n := (← digits.mapM Yaml.hexDigit?).foldl (fun n d => 16 * n + d) 0
  if n.isValidChar then some (Char.ofNat n) else none

/-- A character given by a fixed number of hexadecimal digits. -/
def numberedChar (digits : Nat) : Scan Char := do
  match charOfHex? (← times (fun c => (Yaml.hexDigit? c).isSome) digits) with
  | some c => return c
  | none => failure

/-- A character written with a backslash. -/
def escapedChar : Scan Char := do
  let _ ← sign '\\'
  match ← one fun _ => true with
  | 'b' => return '\x08'
  | 't' => return '\t'
  | 'n' => return '\n'
  | 'f' => return '\x0c'
  | 'r' => return '\r'
  | '"' => return '"'
  | '\\' => return '\\'
  | 'u' => numberedChar 4
  | 'U' => numberedChar 8
  | _ => failure

/-- A character that stands for itself between double quotes. -/
def basicChar : Scan Char := one fun c => isPlain c && c != '"' && c != '\\'

/-- A character between single quotes, which always stands for itself. -/
def literalChar : Scan Char := one fun c => isPlain c && c != '\''

/-- A string between double quotes on one line. -/
def basicString : Scan Text := do
  let _ ← sign '"'
  let t ← many (basicChar <|> escapedChar)
  let _ ← sign '"'
  return t

/-- A string between single quotes on one line. -/
def literalString : Scan Text := do
  let _ ← sign '\''
  let t ← many literalChar
  let _ ← sign '\''
  return t

/-- All quotes that stand here, if their number is between two others. -/
def quotes (quote : Char) (low high : Nat) : Scan Nat := do
  let n := (← Scan.span (· == quote)).length
  if low ≤ n ∧ n ≤ high then return n else failure

/-- The end of a line inside a string, as a line feed. -/
def stringNewline : Scan Text := do
  newline
  return ['\n']

/-- A backslash at the end of a line, with all blanks and ends of lines after it. -/
def continuation : Scan Text := do
  let _ ← sign '\\'
  let _ ← spaces
  newline
  let _ ← many ((do let _ ← one isSpace) <|> newline)
  return []

/-- A string between threefold quotes. A line feed right after the opening quotes does not count;
    one or two quotes may stand inside, also right before the closing ones. -/
def multilineString (quote : Char) (part : Scan Text) : Scan Text := do
  exactly [quote, quote, quote]
  let _ ← optional newline
  let inside : Scan Text := do return List.replicate (← quotes quote 1 2) quote
  let parts ← many (part <|> stringNewline <|> inside)
  return parts.flatten ++ List.replicate ((← quotes quote 3 5) - 3) quote

/-- A string of any kind. -/
def anyString : Scan Text :=
  multilineString '"' ((do return [← basicChar <|> escapedChar]) <|> continuation) <|> basicString <|>
    multilineString '\'' (do return [← literalChar]) <|> literalString

/-! ## Keys -/

/-- Whether a character may stand in a key without quotes. -/
def isBare (c : Char) : Bool := c.isAlphanum || c == '_' || c == '-'

/-- One part of a key. -/
def keyPart : Scan String := do
  let quoted ← optional (basicString <|> literalString)
  match quoted with
  | some t => return String.ofList t
  | none =>
    let t ← Scan.span isBare
    if t.isEmpty then failure else return String.ofList t

/-- How many parts a key has and how deep values nest, at most. -/
def maxDepth : Nat := 79

/-- A key: its parts before the last, and the last. -/
def key : Scan (List String × String) := do
  let parts ← separated (do
    let _ ← spaces
    let part ← keyPart
    let _ ← spaces
    return part) (sign '.')
  match parts.getLast? with
  | some last => if parts.length ≤ maxDepth then return (parts.dropLast, last) else failure
  | none => failure

/-! ## Numbers -/

/-- Digits of a class, where an underscore may stand between two of them. -/
def groupedDigits (p : Char → Bool) : Scan Text := do
  let first ← one p
  let more ← many (one p <|> do
    let _ ← sign '_'
    one p)
  return first :: more

/-- The sign of a number. -/
def numberSign : Scan (Option Char) := optional (one fun c => c == '+' || c == '-')

/-- The digits of a decimal number, which has no zero in front. -/
def decimalDigits : Scan Text :=
  (do return [← sign '0']) <|> groupedDigits Char.isDigit

/-- The number that digits write in a base. -/
def valueOf (base : Nat) (digits : Text) : Nat :=
  digits.foldl (fun n c => base * n + (Yaml.hexDigit? c).getD 0) 0

/-- A whole number that fits into 64 bits with a sign. -/
def fitting (n : Int) : Scan Int :=
  if -9223372036854775808 ≤ n ∧ n ≤ 9223372036854775807 then return n else failure

/-- A whole number in a base other than ten, after its mark. -/
def markedInteger (mark : Char) (base : Nat) : Scan Int := do
  exactly ['0', mark]
  let digits ← groupedDigits fun c => (Yaml.hexDigit? c).any fun d => decide (d < base)
  fitting (valueOf base digits)

/-- A whole number. -/
def integer : Scan Int :=
  markedInteger 'x' 16 <|> markedInteger 'o' 8 <|> markedInteger 'b' 2 <|> do
    let negative := (← numberSign) == some '-'
    let n : Int := valueOf 10 (← decimalDigits)
    fitting (if negative then -n else n)

/-- The exponent of a number. -/
def exponent : Scan Unit := do
  let _ ← one fun c => c == 'e' || c == 'E'
  let _ ← numberSign
  let _ ← groupedDigits Char.isDigit

/-- A number with a point or an exponent, or one that is infinite or none at all. -/
def fractional : Scan Unit := do
  let _ ← numberSign
  exactly ['i', 'n', 'f'] <|> exactly ['n', 'a', 'n'] <|> do
    let _ ← decimalDigits
    exponent <|> do
      let _ ← sign '.'
      let _ ← groupedDigits Char.isDigit
      let _ ← optional exponent

/-! ## Dates and times -/

/-- A number with a fixed number of digits between two others. -/
def fixedNumber (digits low high : Nat) : Scan Nat := do
  let n := valueOf 10 (← times Char.isDigit digits)
  if low ≤ n ∧ n ≤ high then return n else failure

/-- The number of days of a month. -/
def daysOf (year month : Nat) : Nat :=
  if month = 2 then
    if year % 4 = 0 ∧ (year % 100 ≠ 0 ∨ year % 400 = 0) then 29 else 28
  else if month ∈ [4, 6, 9, 11] then 30
  else 31

/-- A date. -/
def date : Scan Unit := do
  let year ← fixedNumber 4 0 9999
  let _ ← sign '-'
  let month ← fixedNumber 2 1 12
  let _ ← sign '-'
  let _ ← fixedNumber 2 1 (daysOf year month)

/-- A time of day. -/
def timeOfDay : Scan Unit := do
  let _ ← fixedNumber 2 0 23
  let _ ← sign ':'
  let _ ← fixedNumber 2 0 59
  let _ ← sign ':'
  let _ ← fixedNumber 2 0 60
  let _ ← optional do
    let _ ← sign '.'
    let first ← one Char.isDigit
    return first :: (← Scan.span Char.isDigit)

/-- The distance of a time from that of Greenwich. -/
def timeOffset : Scan Unit :=
  (do let _ ← one fun c => c == 'Z' || c == 'z') <|> do
    let _ ← one fun c => c == '+' || c == '-'
    let _ ← fixedNumber 2 0 23
    let _ ← sign ':'
    let _ ← fixedNumber 2 0 59

/-- A date, a time, or both. -/
def dateOrTime : Scan Unit :=
  (do
    date
    let _ ← optional do
      let _ ← one fun c => c == 'T' || c == 't' || c == ' '
      timeOfDay
      let _ ← optional timeOffset) <|> timeOfDay

/-- A value that holds no other. -/
def scalar : Scan Value :=
  (do return .string (String.ofList (← anyString))) <|>
  (do dateOrTime; return .other) <|>
  (do fractional; return .other) <|>
  (do return .integer (← integer)) <|>
  (do exactly ['t', 'r', 'u', 'e']; return .boolean true) <|>
  (do exactly ['f', 'a', 'l', 's', 'e']; return .boolean false)

end YamlListing.Toml

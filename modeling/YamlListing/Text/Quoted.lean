import YamlListing.Text.Basic
import YamlListing.Unicode.ClusterTables
import YamlListing.Unicode.Printable

set_option autoImplicit false

/-! # Quoted text

Messages show a text that came from outside between double quotes, on one line: a quote, a backslash
and the usual controls are written with a backslash, and any other character that would not show is
written by its number. -/

namespace YamlListing.Text

/-- The digits of a number in a base up to sixteen. -/
def digits (base n : Nat) : Text := Nat.toDigits base n

/-- A character by its number. -/
def numbered (c : Char) : Text :=
  ['\\', 'u', '\x7b'] ++ digits 16 c.toNat ++ ['\x7d']

/-- A character as it is written between double quotes. -/
def quotedChar (c : Char) : Text :=
  match c with
  | '"' => ['\\', '"']
  | '\\' => ['\\', '\\']
  | '\n' => ['\\', 'n']
  | '\t' => ['\\', 't']
  | '\r' => ['\\', 'r']
  | '\x00' => ['\\', '0']
  | _ => if Unicode.isExtending c || !Unicode.isPrintable c then numbered c else [c]

/-- A text between double quotes. -/
def quoted (t : Text) : Text := '"' :: t.flatMap quotedChar ++ ['"']

/-- A string between double quotes. -/
def quotedString (s : String) : String := String.ofList (quoted s.toList)

end YamlListing.Text

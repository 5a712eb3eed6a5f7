import YamlListing.Text.Basic

set_option autoImplicit false

/-! # The log

A run keeps a log of what it does. Every entry has a level, and only entries up to the level that was
asked for are shown. -/

namespace YamlListing

/-- How much of the log is shown, or how important an entry is. -/
inductive LogLevel where
  | off
  | error
  | warn
  | info
  | debug
  | trace
  deriving DecidableEq, Repr

namespace LogLevel

/-- Every level, the most silent one first. -/
def all : List LogLevel := [.off, .error, .warn, .info, .debug, .trace]

/-- The name of a level. -/
def toName : LogLevel → String
  | off => "OFF"
  | error => "ERROR"
  | warn => "WARN"
  | info => "INFO"
  | debug => "DEBUG"
  | trace => "TRACE"

/-- The place of a level in `all`. -/
def index (l : LogLevel) : Nat := l.ctorIdx

/-- A letter of the alphabet as a capital. -/
def capital (c : Char) : Char := if 'a' ≤ c ∧ c ≤ 'z' then Char.ofNat (c.toNat - 32) else c

/-- The level that a text names in any mix of capitals and small letters, with blanks around. -/
def ofText? (t : Text) : Option LogLevel :=
  all.find? fun l => l.toName.toList == (Text.trim t).map capital

end LogLevel

/-- An entry of the log. -/
structure LogEntry where
  level : LogLevel
  /-- The part of the program that tells it. -/
  target : String
  message : String
  deriving DecidableEq, Repr

namespace LogEntry

/-- An entry as a line. -/
def text (e : LogEntry) : Text :=
  '[' :: Text.padEnd 5 e.level.toName.toList ++ (" " ++ e.target ++ "] " ++ e.message ++ "\n").toList

/-- The lines of the entries up to a level. -/
def shown (level : LogLevel) (entries : List LogEntry) : Text :=
  (entries.filter fun e => e.level.index ≤ level.index).flatMap text

end LogEntry

end YamlListing

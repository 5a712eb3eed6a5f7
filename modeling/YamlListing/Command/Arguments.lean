import YamlListing.Color.Cell
import YamlListing.Command.Log
import YamlListing.Listing.LineRange

set_option autoImplicit false

/-! # Arguments of the command

An argument begins with two dashes and a name, with one dash and letters, or it is a value. A value
belongs to the option before it if that one waits for a value, and otherwise it is the file to list.
After an argument of two dashes alone everything is a value.

`Arguments.ofList` reads a list of arguments from left to right. The option that was read last stays
pending until the next one is read, so its value is only checked then (`Draft.settle`). -/

namespace YamlListing

/-- What the arguments of a run ask for. -/
structure Arguments where
  file : Option String := none
  /-- The file to compare with. -/
  diff : Option String := none
  /-- Whether to show a summary, perhaps with a number of unchanged lines around each change. -/
  summary : Option (Option Nat) := none
  find : Option Text := none
  onlyMatches : Bool := false
  lines : Option LineRange := none
  lineNumbers : Bool := false
  theme : Option String := none
  listThemes : Bool := false
  config : Option String := none
  noEscape : Bool := false
  tabWidth : Option Nat := none
  colorDepth : ColorDepth := .trueColor
  logLevel : Option LogLevel := none
  deriving DecidableEq, Repr

/-- What can be wrong with arguments. -/
inductive ArgumentError where
  /-- An option that does not exist, or one value too many. -/
  | unknownArgument
  /-- A value that is missing or is not among those to choose from. -/
  | invalidValue
  /-- A value that cannot be read. -/
  | malformedValue
  /-- An option that is given twice. -/
  | repeatedArgument
  /-- A value for an option that takes none. -/
  | unneededValue
  /-- An argument without which the others make no sense. -/
  | missingArgument
  deriving DecidableEq, Repr

/-- Why arguments lead to no run. -/
inductive Halt where
  | help
  | version
  | refused (error : ArgumentError)
  deriving DecidableEq, Repr

/-! ## Parameters -/

/-- What can be given by arguments. -/
inductive Parameter where
  | file
  | diff
  | summary
  | find
  | onlyMatches
  | lines
  | lineNumbers
  | theme
  | listThemes
  | config
  | noEscape
  | tabWidth
  | colorDepth
  | logLevel
  | help
  | version
  deriving DecidableEq, Repr

namespace Parameter

/-- The options by their names. -/
def named : List (String × Parameter) :=
  [("diff", diff), ("summary", summary), ("find", find), ("only-matches", onlyMatches),
   ("lines", lines), ("line-numbers", lineNumbers), ("theme", theme), ("list-themes", listThemes),
   ("config", config), ("no-escape", noEscape), ("tab-width", tabWidth),
   ("color-depth", colorDepth), ("log-level", logLevel), ("help", help), ("version", version)]

/-- The option with a given name. -/
def ofName? (name : Text) : Option Parameter :=
  (named.find? fun entry => entry.1.toList == name).map Prod.snd

/-- The option with a given letter. -/
def ofLetter? (letter : Char) : Option Parameter :=
  match letter with
  | 'n' => some lineNumbers
  | 't' => some theme
  | 'h' => some help
  | 'V' => some version
  | _ => none

/-- Whether an option is only switched on. -/
def isSwitch : Parameter → Bool
  | onlyMatches | lineNumbers | listThemes | noEscape | help | version => true
  | _ => false

/-- Whether a parameter has to have a value. -/
def needsValue (p : Parameter) : Bool := !p.isSwitch && p != .summary

end Parameter

/-! ## Values -/

namespace Arguments

/-- A value that names a file. -/
def path (t : Text) : Except ArgumentError String :=
  if t.isEmpty then .error .invalidValue else .ok (String.ofList t)

/-- A value that is a number. -/
def number (t : Text) : Except ArgumentError Nat :=
  match Text.natural? t with
  | some n => .ok n
  | none => .error .malformedValue

/-- A value that is a range of lines. -/
def range (t : Text) : Except ArgumentError LineRange :=
  match LineRange.ofText t with
  | .ok r => .ok r
  | .error _ => .error .malformedValue

/-- A value that is one of several. -/
def choice {α : Type} (choices : List (String × α)) (t : Text) : Except ArgumentError α :=
  match choices.find? fun entry => entry.1.toList == t with
  | some (_, value) => .ok value
  | none => .error .invalidValue

/-- The color depths to choose from. -/
def depths : List (String × ColorDepth) :=
  [("truecolor", .trueColor), ("256", .ansi256), ("16", .ansi16)]

/-- The log levels to choose from. -/
def levels : List (String × LogLevel) :=
  [("off", .off), ("error", .error), ("warn", .warn), ("info", .info), ("debug", .debug),
   ("trace", .trace)]

/-- Arguments with a parameter switched on, or with its value. -/
def set (a : Arguments) (p : Parameter) (value : Option Text) : Except ArgumentError Arguments := do
  match p, value with
  | .onlyMatches, _ => return { a with onlyMatches := true }
  | .lineNumbers, _ => return { a with lineNumbers := true }
  | .listThemes, _ => return { a with listThemes := true }
  | .noEscape, _ => return { a with noEscape := true }
  | .summary, none => return { a with summary := some none }
  | .summary, some t => return { a with summary := some (some (← number t)) }
  | .file, some t => return { a with file := some (← path t) }
  | .diff, some t => return { a with diff := some (← path t) }
  | .config, some t => return { a with config := some (← path t) }
  | .find, some t => return { a with find := some t }
  | .theme, some t => return { a with theme := some (String.ofList t) }
  | .lines, some t => return { a with lines := some (← range t) }
  | .tabWidth, some t => return { a with tabWidth := some (← number t) }
  | .colorDepth, some t => return { a with colorDepth := ← choice depths t }
  | .logLevel, some t => return { a with logLevel := some (← choice levels t) }
  | .help, _ | .version, _ => return a
  | _, none => throw .invalidValue

/-- Whether all is there that the given arguments ask for. -/
def isComplete (a : Arguments) : Bool :=
  (a.file.isSome || a.listThemes) && (a.summary.isNone || a.diff.isSome) &&
    (!a.onlyMatches || a.find.isSome)

end Arguments

/-! ## Reading -/

/-- Arguments being read. -/
structure Draft where
  arguments : Arguments := {}
  /-- The parameters that were given. -/
  given : List Parameter := []
  /-- The parameter that was read last, with its value. -/
  pending : Option (Parameter × Option Text) := none
  /-- The option that takes the next value. -/
  waiting : Option Parameter := none
  /-- Whether the file was given. -/
  hasFile : Bool := false

namespace Draft

/-- Takes a parameter with its value, if it has one. -/
def take (d : Draft) (p : Parameter) (value : Option Text) : Except Halt Draft :=
  if p = .help then .error .help
  else if p = .version then .error .version
  else if p.needsValue && value.isNone then .error (.refused .invalidValue)
  -- A second one is refused before its value is read.
  else if d.given.contains p then .error (.refused .repeatedArgument)
  else match d.arguments.set p value with
    | .ok a => .ok { d with arguments := a, given := p :: d.given }
    | .error e => .error (.refused e)

/-- Takes the parameter that is pending. -/
def settle (d : Draft) : Except Halt Draft :=
  match d.pending with
  | none => .ok d
  | some (p, value) => { d with pending := none }.take p value

/-- Reads a parameter that is complete. -/
def complete (d : Draft) (p : Parameter) (value : Option Text) : Except Halt Draft := do
  return { (← (← d.settle).take p value) with waiting := none }

/-- Reads an option that takes a value; if none is attached, the next argument may be it. -/
def option (d : Draft) (p : Parameter) (attached : Option Text) : Except Halt Draft :=
  match attached with
  | some t => d.complete p (some t)
  | none => do
    return { (← d.settle) with pending := some (p, none), waiting := some p }

/-- Reads a value. -/
def value (d : Draft) (t : Text) : Except Halt Draft :=
  match d.waiting with
  | some p => .ok { d with pending := some (p, some t), waiting := none }
  | none =>
    if d.hasFile then .error (.refused .unknownArgument)
    else do
      return { (← d.settle) with pending := some (.file, some t), hasFile := true }

/-- Reads what follows two dashes. -/
def long (d : Draft) (t : Text) : Except Halt Draft :=
  let attached := match t.dropWhile (· != '=') with
    | [] => none
    | _ :: rest => some rest
  match Parameter.ofName? (t.takeWhile (· != '=')) with
  | none => .error (.refused .unknownArgument)
  | some p =>
    if !p.isSwitch then d.option p attached
    else if attached.isSome then .error (.refused .unneededValue)
    else d.complete p none

/-- Reads the letters after one dash. What follows the letter of an option is its value. -/
def letters (d : Draft) : Text → Except Halt Draft
  | [] => .ok d
  | c :: rest =>
    match Parameter.ofLetter? c with
    | none => .error (.refused .unknownArgument)
    | some p =>
      if p.isSwitch then do letters (← d.complete p none) rest
      else d.option p (match rest with
        | [] => none
        | '=' :: attached => some attached
        | attached => some attached)

/-- Reads values only. The first of them is the file. -/
def values (d : Draft) : List Text → Except Halt Draft
  | [] => .ok d
  | t :: rest => do values (← { d with waiting := none }.value t) rest

/-- Reads arguments. -/
def all (d : Draft) : List Text → Except Halt Draft
  | [] => .ok d
  | ['-', '-'] :: rest => d.values rest
  | ('-' :: '-' :: name) :: rest => do all (← d.long name) rest
  | ('-' :: c :: more) :: rest => do all (← d.letters (c :: more)) rest
  | t :: rest => do all (← d.value t) rest

end Draft

/-- Reads the arguments of a run. -/
def Arguments.ofList (args : List Text) : Except Halt Arguments := do
  let d ← ((← ({} : Draft).all args)).settle
  if d.arguments.isComplete then return d.arguments
  else throw (.refused .missingArgument)

end YamlListing

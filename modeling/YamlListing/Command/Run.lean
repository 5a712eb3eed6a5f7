import YamlListing.Command.Arguments
import YamlListing.Diff.Revision
import YamlListing.Listing.Selection
import YamlListing.Search.Finder
import YamlListing.Settings.Theme

set_option autoImplicit false

/-! # A run of the command

A run reads settings, finds the theme, reads the file and perhaps a second one to compare with, and
prints. It keeps a log on the way. What it may look at of the outside is an `Environment`, and what
it answers is an `Outcome`, so a run is a function. -/

namespace YamlListing

/-! ## The outside -/

/-- Why a file cannot be read. -/
inductive FileError where
  | notFound
  | notADirectory
  | isADirectory
  | other (text : String)
  deriving DecidableEq, Repr

namespace FileError

/-- The wording of an error. -/
def message : FileError → String
  | notFound => "No such file or directory (os error 2)"
  | notADirectory => "Not a directory (os error 20)"
  | isADirectory => "Is a directory (os error 21)"
  | other text => text

/-- Whether the error means that there is no such file. -/
def isMissing : FileError → Bool
  | notFound | notADirectory => true
  | isADirectory | other _ => false

end FileError

/-- What a run may look at. -/
structure Environment where
  file : String → Except FileError Text
  standardInput : Except FileError Text
  /-- The settings file that is used unless another one is named. -/
  settingsFile : Option String
  /-- The level of the log that is used unless another one is asked for. -/
  logLevel : Option Text

/-- What a run answers: an exit code and what it writes to the two outputs. -/
structure Outcome where
  code : Nat
  output : Text
  errors : Text
  deriving DecidableEq, Repr

/-! ## Errors -/

/-- Why a run fails. -/
inductive RunError where
  | unreadableSettings (path : String) (error : FileError)
  | malformedSettings (path : String)
  | theme (error : ThemeError)
  | unreadableFile (path : String) (error : FileError)
  | unreadableInput (error : FileError)
  | unclassified (path : String) (error : SourceError)
  | noFile
  | noRevisions
  deriving DecidableEq, Repr

/-- The wording of an error. -/
def RunError.message : RunError → String
  | unreadableSettings path error =>
    "failed to read config from " ++ path ++ ": " ++ error.message
  | malformedSettings path => "failed to parse config from " ++ path ++ ": TOML parse error"
  | theme error => error.message
  | unreadableFile path error => "failed to read " ++ path ++ ": " ++ error.message
  | unreadableInput error => "failed to read stdin: " ++ error.message
  | unclassified path error => "failed to classify " ++ path ++ ": " ++ error.message
  | noFile => "no input file; see --help"
  | noRevisions => "a diff needs two revisions"

/-- A part of a run, which may fail and goes on with the log, the last entry first. -/
abbrev Session (α : Type) := ExceptT RunError (StateM (List LogEntry)) α

namespace Session

/-- Adds an entry to the log. -/
def log (level : LogLevel) (target message : String) : Session Unit :=
  modify (⟨level, target, message⟩ :: ·)

/-- A value, or the error in its place. -/
def orFail {ε α : Type} (wrap : ε → RunError) : Except ε α → Session α
  | .ok a => return a
  | .error e => throw (wrap e)

/-! ## Settings -/

/-- The variable that names a settings file. -/
def settingsVariable : String := "Y_PRISM_CONFIG"

/-- The variable that holds a log level. -/
def logVariable : String := "Y_PRISM_LOG"

/-- The settings of a file. -/
def readSettings (env : Environment) (path : String) : Session Settings := do
  let text ← orFail (.unreadableSettings path) (env.file path)
  match Settings.ofText? text with
  | none => throw (.malformedSettings path)
  | some settings =>
    log .debug "y_prism::config" ("loaded config from " ++ path)
    return settings

/-- Whether a file exists, as far as reading it tells. -/
def exists? (env : Environment) (path : String) : Bool :=
  match env.file path with
  | .ok _ => true
  | .error e => !e.isMissing

/-- The settings of a run. A file that is named by an argument must exist. -/
def settings (env : Environment) (named : Option String) : Session Settings := do
  match named, env.settingsFile with
  | some path, _ => readSettings env path
  | none, some path =>
    if exists? env path then readSettings env path
    else
      log .debug "y_prism::config" (settingsVariable ++ " names " ++ path ++ ", which does not exist")
      return {}
  | none, none => return {}

/-- The registered themes, with that of the settings. -/
def themes (s : Settings) : Session Registry := do
  let custom ← orFail .theme s.customPalette
  if let some p := custom then
    log .debug "y_theme::registry" ("registering theme " ++ Text.quotedString Settings.customName
      ++ " (" ++ p.mode.toName ++ ")")
  return Settings.registerCustom .builtin custom

/-! ## Sources -/

/-- Whether a path names the standard input: a dash, perhaps with empty steps after it. -/
def isStandardInput (path : String) : Bool :=
  match Text.splitOn '/' path.toList with
  | ['-'] :: steps => steps.all fun step => step.isEmpty || step == ['.']
  | _ => false

/-- The place of a token in the log. -/
def placeText (t : Yaml.Token) : String :=
  toString t.place.line ++ ":" ++ toString t.place.column

/-- The warning that a token deserves. -/
def warning? (t : Yaml.Token) : Option String :=
  match t.kind, t.raw with
  | .unknown, c :: _ =>
    some ("reserved indicator '" ++ String.ofList [c] ++ "' at " ++ placeText t)
  | .invalid, c :: _ =>
    if Yaml.Lexer.isQuote c then
      some ("unterminated quoted scalar starting at " ++ placeText t)
    else some ("stray '" ++ String.ofList [c] ++ "' at " ++ placeText t)
  | _, _ => none

/-- Tells the log what the tokens and segments of a source are. -/
def logTokens (s : Source) : Session Unit := do
  let text := Text.joinLines s.lines
  let tokens := Yaml.Lexer.tokenize text
  let segments := Yaml.Segment.ofTokens tokens
  for t in tokens do
    if let some message := warning? t then
      log .warn "y_source::lexer" message
  log .debug "y_source::lexer" ("lexed " ++ toString tokens.length ++ " tokens from "
    ++ toString (Text.byteLength text) ++ " bytes")
  log .debug "y_source::classify" ("classified " ++ toString tokens.length ++ " tokens into "
    ++ toString segments.length ++ " segments")

/-- A file as a classified source. -/
def source (env : Environment) (path : String) : Session Source := do
  let (text, name) ← if isStandardInput path then do
      pure (← orFail .unreadableInput env.standardInput, "<stdin>")
    else do
      pure (← orFail (.unreadableFile path) (env.file path), path)
  let s := Source.ofText text (some name)
  logTokens s
  let s ← orFail (.unclassified path) s.classify
  log .debug "y_source::source" ("attached " ++ toString s.segmentCount
    ++ " segments to " ++ toString s.lineCount ++ " lines")
  log .debug "y_prism" ("loaded " ++ path ++ " (" ++ toString s.lineCount ++ " lines)")
  return s

/-- The environment after a file was read: the standard input can be read only once. -/
def afterReading (env : Environment) (path : String) : Environment :=
  if isStandardInput path then { env with standardInput := .ok [] } else env

/-! ## Printing -/

/-- A source with the hits of a query highlighted, and the hits. -/
def highlighted (query : Option Text) (s : Source) : Session (Source × List Span) := do
  match query with
  | none => return (s, [])
  | some query =>
    let finder := (Finder.new {}).load s
    log .debug "y_source::finder" ("finder indexed " ++ toString finder.index.length ++ " lines, "
      ++ toString finder.indexBytes ++ " normalized bytes")
    let hits := finder.find query
    log .info "y_prism" (toString hits.length ++ " matches for "
      ++ String.ofList (Text.quoted query))
    return (s.addOverlays .highlight hits, hits)

/-- What the arguments choose of a source. -/
def selection (a : Arguments) (hits : List Span) : Selection :=
  if a.onlyMatches then .touched hits
  else match a.lines with
    | some r => .range r
    | none => .whole

/-- Prints what the arguments choose of a source. -/
def print (a : Arguments) (o : ListingOptions) (s : Source) : Session Text := do
  let (s, hits) ← highlighted a.find s
  let chosen := selection a hits
  for n in chosen.lines s do
    log .trace "y_print::printer" ("rendering line " ++ toString n ++ " ("
      ++ toString ((s.line? n).getD []).length ++ " chars)")
  return chosen.print (.new o) s

/-- The line between parts of a listing. -/
def separator : Text := ['⋯']

/-- The options of a listing. -/
def options (a : Arguments) (s : Settings) (styles : Styles) : ListingOptions :=
  let o : ListingOptions :=
    { styles := styles
      controlEscape := s.controlEscape && !a.noEscape
      depth := a.colorDepth
      separator := separator }
  o.withTabWidth (a.tabWidth.getD s.tabWidth)

/-- Lists a source. -/
def listing (a : Arguments) (s : Settings) (o : ListingOptions) (source : Source) :
    Session Text :=
  let numbered := a.lineNumbers || s.lineNumbers
  print a (if numbered then { o with gutter := some Gutter.lineNumbers } else o) source

/-- Lists the comparison of a source with another. -/
def comparison (a : Arguments) (s : Settings) (o : ListingOptions) (origin tip : Source) :
    Session Text := do
  let revisions := (Revisions.empty.push origin).push tip
  let view := match a.summary with
    | some context => revisions.summaryDiff (context.getD s.context)
    | none => revisions.fullDiff
  match view with
  | none => throw .noRevisions
  | some view =>
    log .debug "y_source::diff" ("diffed " ++ toString origin.lineCount ++ " against "
      ++ toString tip.lineCount ++ " lines: edit distance " ++ toString view.distance)
    log .info "y_prism" (toString view.distance ++ " lines changed")
    let gutter := Gutter.diffMarkers view.lines (a.lineNumbers || s.lineNumbers)
    print a { o with gutter := some gutter } view.source

/-- The registered themes with their modes, a line for each. -/
def themeList (r : Registry) : Text :=
  r.names.flatMap fun name =>
    match r.mode? name with
    | some mode => (name ++ " (" ++ mode.toName ++ ")\n").toList
    | none => (name ++ "\n").toList

/-- What a run prints. -/
def answer (env : Environment) (a : Arguments) : Session Text := do
  let s ← settings env a.config
  let registry ← themes s
  -- The list of themes needs no file.
  if a.listThemes then return themeList registry
  match a.file with
  | none => throw .noFile
  | some path =>
    let styles ← orFail .theme (s.resolveRegistered a.theme registry).1
    let o := options a s styles
    let origin ← source env path
    match a.diff with
    | none => listing a s o origin
    | some other => comparison a s o origin (← source (afterReading env path) other)

end Session

/-! ## The whole command -/

namespace Command

/-- The name of the command. -/
def name : String := "y-prism"

/-- The version of the command. -/
def version : String := "0.1.0"

/-- What the command says about itself. -/
def help : String :=
  "y-prism - render YAML as styled terminal output\n\n" ++
  "Usage: y-prism [OPTIONS] [FILE]\n\n" ++
  "  FILE                   YAML file to render; '-' reads from stdin\n" ++
  "  --diff OTHER           compare FILE (the origin) against OTHER (the tip)\n" ++
  "  --summary [N]          show only changed lines, with N lines of context\n" ++
  "  --find QUERY           highlight matches of QUERY\n" ++
  "  --only-matches         print only the lines that contain a match\n" ++
  "  --lines A:B            print only lines A through B\n" ++
  "  -n, --line-numbers     show line numbers in a gutter\n" ++
  "  -t, --theme NAME       theme to render with\n" ++
  "  --list-themes          list the available themes and exit\n" ++
  "  --config PATH          config file (default: $Y_PRISM_CONFIG)\n" ++
  "  --no-escape            expand tabs and pass other controls through\n" ++
  "  --tab-width N          tab stop interval used with --no-escape\n" ++
  "  --color-depth DEPTH    truecolor, 256 or 16\n" ++
  "  --log-level LEVEL      off, error, warn, info, debug or trace\n" ++
  "  -h, --help             print help\n" ++
  "  -V, --version          print version\n"

/-- The wording of an error in the arguments. -/
def refusal : ArgumentError → String
  | .unknownArgument => "unexpected argument"
  | .invalidValue => "a value is required or not among the possible values"
  | .malformedValue => "invalid value"
  | .repeatedArgument => "an argument cannot be used multiple times"
  | .unneededValue => "unexpected value"
  | .missingArgument => "required arguments were not provided"

/-- The level up to which the log is shown. -/
def shownLevel (env : Environment) (a : Arguments) : LogLevel :=
  (a.logLevel.or (env.logLevel.bind LogLevel.ofText?)).getD .off

/-- Runs the command. -/
def run (env : Environment) (args : List Text) : Outcome :=
  match Arguments.ofList args with
  | .error .help => ⟨0, help.toList, []⟩
  | .error .version => ⟨0, (name ++ " " ++ version ++ "\n").toList, []⟩
  | .error (.refused e) => ⟨2, [], ("error: " ++ refusal e ++ "\n").toList⟩
  | .ok a =>
    let (result, entries) := (ExceptT.run (Session.answer env a)).run []
    let log := LogEntry.shown (shownLevel env a) entries.reverse
    match result with
    | .ok output => ⟨0, output, log⟩
    | .error e => ⟨1, [], log ++ (name ++ ": " ++ e.message ++ "\n").toList⟩

end Command

end YamlListing

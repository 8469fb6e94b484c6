import Turnstile.CommandLine.Options
import Turnstile.CommandLine.Report
import Turnstile.Settings.Loading
import Turnstile.Strategy

/-! Runs of the program: from its arguments to what it prints and how it ends. While a file is
proved, a bar on the error stream may show how far that has got; it is drawn by other means and no
part of what is printed here. -/
namespace Turnstile.CommandLine

/-- What ends a run without any report. -/
inductive Failure where
  | unread (error : LoadError)
  | unreadableSettings (error : Yaml.ReadError)
  /-- A log layout without any field. -/
  | invalidLayout (text : String)
  | layoutNotText
  /-- The level is called like a layout. -/
  | unknownLevel
  /-- The level is called like a table of layouts. -/
  | levelNotText
  | nameNotText
  | namelessFile
  deriving DecidableEq, Repr

def Failure.message : Failure → String
  | unread (.file .missing) => "No such file or directory"
  | unread (.file .isDirectory) => "Is a directory"
  | unread (.file .notDirectory) => "Not a directory"
  | unread (.file .nameTooLong) => "File name too long"
  | unread (.file .nullInName) => "embedded null byte"
  | unread .notUtf8 => "The file is not UTF-8"
  | unreadableSettings error => error.message
  | invalidLayout text => "Invalid format '" ++ text ++ "' for '%' style"
  | layoutNotText => "The layout of the log is not a text"
  | unknownLevel => "Unknown level: '%(levelname)s:%(name)s:%(message)s'"
  | levelNotText => "The level of the log is not a text"
  | nameNotText => "A name in the settings is not a text"
  | namelessFile => "The file has no name"

inductive Ending where
  | exit (code : Nat)
  | stopped (stop : Stop)
  | failed (failure : Failure)
  deriving DecidableEq, Repr

/-- The end of a run, and the lines that it printed to both streams. -/
structure Outcome where
  ending : Ending
  out : List String
  err : List String
  deriving DecidableEq, Repr

namespace Outcome

def stop (s : Stop) : Outcome :=
  ⟨.stopped s, [], []⟩

def fail (f : Failure) : Outcome :=
  ⟨.failed f, [], []⟩

def complain (message : String) : Outcome :=
  ⟨.exit 1, [], ["Error: " ++ message]⟩

/-- The same, with lines of the log before all others. -/
def behind (o : Outcome) (lines : List String) : Outcome :=
  { o with err := lines ++ o.err }

/-- Something that could not be proved is no failure if that is excused. -/
def excuse (o : Outcome) (excused : Bool) : Outcome :=
  if excused && o.ending = .exit Status.unproved.exitCode then
    { o with ending := .exit Status.proved.exitCode }
  else o

end Outcome

/-- Why a run cannot be set up. -/
inductive SetupError where
  | failed (failure : Failure)
  | format (error : Format.Error)
  | strategy (error : Strategy.Error)

def SetupError.outcome : SetupError → Outcome
  | failed f => .fail f
  | format e => .complain e.message
  | strategy e => .complain e.message

namespace Setup

/-- Whether the log is shown. A level is known by its name; two other names are taken too, but
they are no levels. -/
def showsLog (options : Options) (settings : Settings) : Except Failure Bool :=
  if options.verbose then .ok true
  else
    match settings.get? "logging.level" with
    | some (.scalar (.json (.text level))) =>
      let name := LogRecord.levelName level
      if name == "BASIC_FORMAT".toList then .error .unknownLevel
      else if name == "_STYLES".toList then .error .levelNotText
      else .ok (LogRecord.isShownFrom level)
    | _ => .ok false

def readLayout (text : String) : Except Failure Log.Layout :=
  match Log.Layout.parse? text with
  | some layout => .ok layout
  | none => .error (.invalidLayout text)

/-- The layout that the settings ask for. An empty one is replaced by the message alone. -/
def selectLayout (settings : Settings) : Except Failure Log.Layout :=
  match settings.get? "logging.format" with
  | none => readLayout "%(levelname)s %(name)s: %(message)s"
  | some (.scalar (.json (.text s))) => readLayout (if s = "" then "%(message)s" else s)
  | some value => if value.isTruthy then .error .layoutNotText else readLayout "%(message)s"

/-- What the format is called, if anything is said about that. An option comes before the
settings. -/
def formatValue (options : Options) (settings : Settings) : Option Yaml.Value :=
  match options.format.filter (· ≠ "") with
  | some name => some (.text name)
  | none => settings.get? "format.output"

def selectFormat (options : Options) (settings : Settings) : Except SetupError Format :=
  match formatValue options settings with
  | none => (Format.select Format.defaults (some "sequent") none).mapError .format
  | some (.scalar (.json (.text name))) =>
    (Format.select Format.defaults (some name) none).mapError .format
  | some value =>
    if value.isTruthy then .error (.failed .nameNotText) else .error (.format .unspecified)

def selectRules (settings : Settings) : Except SetupError (List Rule) :=
  match settings.get? "search.strategy" with
  | none => (Strategy.select Strategy.defaults "backward" none).mapError .strategy
  | some (.scalar (.json (.text name))) =>
    (Strategy.select Strategy.defaults name none).mapError .strategy
  | some _ => .error (.failed .nameNotText)

def showsRules (options : Options) (settings : Settings) : Bool :=
  options.rules || ((settings.get? "output.show_rules").getD (.bool false)).isTruthy

def make (options : Options) (settings : Settings) : Except SetupError Setup := do
  let layout ← (selectLayout settings).mapError .failed
  let shown ← (showsLog options settings).mapError .failed
  let format ← selectFormat options settings
  let rules ← selectRules settings
  return { format, rules, showRules := showsRules options settings,
           layout := if shown then some layout else none }

end Setup

/-- What there is to prove. -/
inductive Task where
  | text (text : String)
  | file (path : String)
  | namelessFile

def Options.task? (o : Options) : Option Task :=
  match o.file with
  | .given path => some (.file path)
  | .nameless => some .namelessFile
  | .none => o.sequent.map .text

def formatsListing : List String :=
  "Available formats:" :: Format.defaults.entries.map fun (name, format) =>
    "  " ++ Log.pad true 10 name ++ " " ++ ", ".intercalate format.extensions

variable {m : Type → Type} [Monad m] [Host m]

/-- Ends with a report, after saving its product if that is asked for. -/
def conclude (options : Options) (report : Report) (place : String → String) (notice : String) :
    m Outcome := do
  let done := Ending.exit report.status.exitCode
  match options.json.filter (· ≠ ""), report.product with
  | some path, some content =>
    match ← Host.saveText (place path) content with
    | .ok () => return ⟨done, report.out ++ [notice ++ " saved to " ++ path], report.err⟩
    | .error e => return ⟨.failed (.unread (.file e)), report.out, report.err⟩
  | _, _ => return ⟨done, report.out, report.err⟩

def proveText (options : Options) (setup : Setup) (text : String) : m Outcome :=
  conclude options (setup.reportText options.quiet text) Path.tidy "Derivation"

def proveFile (options : Options) (setup : Setup) (path : String) : m Outcome := do
  match ← SequentFile.load path with
  | .error e => return .fail (.unread e)
  | .ok scan => conclude options (setup.reportScan scan) id "Derivations"

def openingRecord (path : String) : LogRecord :=
  ⟨.commandLine, "Proving sequents from " ++ path⟩

/-- Proves the sequents of a file if it exists. -/
def performFile (options : Options) (setup : Setup) (path : String) : m Outcome := do
  match ← Host.present path with
  | .error e => return .fail (.unread (.file e))
  | .ok false => return .complain ("File not found: " ++ path)
  | .ok true => return (← proveFile options setup path).behind (setup.log [openingRecord path])

def perform (options : Options) (setup : Setup) : Task → m Outcome
  | .text text => proveText options setup text
  | .file path => performFile options setup (Path.tidy path)
  | .namelessFile => return .fail .namelessFile

/-- A file of settings that does not exist is complained about; others that cannot be read
end the run. -/
def settingsOutcome : Settings.LoadError → Outcome
  | .unread path (.file .missing) =>
    .complain ("[Errno 2] No such file or directory: " ++ Text.quote path)
  | .unread _ e => .fail (.unread e)
  | .unreadable e => .fail (.unreadableSettings e)

/-- Runs the program. Settings stay in force for later runs. -/
def run (reader : Yaml.Reader) (arguments : List String) (kept : Option Settings) :
    m (Outcome × Option Settings) := do
  match Options.parse arguments with
  | .error stop => return (.stop stop, kept)
  | .ok options =>
    if options.listFormats then return (⟨.exit 0, formatsListing, []⟩, kept)
    else
      match options.task? with
      | none => return (.stop (.usage .nothingToProve), kept)
      | some task =>
        match ← Settings.obtain reader kept options.config with
        | .error e => return (settingsOutcome e, kept)
        | .ok settings =>
          match Setup.make options settings with
          | .error e => return (e.outcome, some settings)
          | .ok setup =>
            let outcome ← perform options setup task
            return (outcome.excuse options.noFailExit, some settings)

end Turnstile.CommandLine

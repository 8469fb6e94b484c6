import Turnstile.Settings

/-! Loading settings with a reader for the texts of files. Texts in a file may refer to environment
variables, and the loaded values hold what the variables held at that time. -/
namespace Turnstile.Settings

/-- Reads a reference to a variable, with the text to use if the variable is not set. -/
def reference? (text : String) : Option (String × String) :=
  match text.toList with
  | '$' :: '\x7b' :: rest =>
    if rest.getLast? = some '\x7d' then
      let inner := rest.dropLast
      some (String.ofList (inner.takeWhile (· ≠ ':')),
        String.ofList ((inner.dropWhile (· ≠ ':')).drop 1))
    else none
  | _ => none

variable {m : Type → Type} [Monad m] [Host m]

def resolveText (text : String) : m String := do
  match reference? text with
  | none => return text
  | some (name, default) => return (← Host.environment name).getD default

mutual

/-- Replaces the texts that refer to variables. Keys stay as they are. -/
def resolve : Yaml.Value → m Yaml.Value
  | .scalar (.json (.text s)) => return .text (← resolveText s)
  | .scalar s => return .scalar s
  | .list items => return .list (← resolveItems items)
  | .map entries => return .map (← resolveEntries entries)

def resolveItems : List Yaml.Value → m (List Yaml.Value)
  | [] => return []
  | item :: rest => return (← resolve item) :: (← resolveItems rest)

def resolveEntries : List (Yaml.Scalar × Yaml.Value) → m Yaml.Entries
  | [] => return []
  | (key, value) :: rest => return (key, ← resolve value) :: (← resolveEntries rest)

end

inductive LoadError where
  | unread (path : String) (error : Turnstile.LoadError)
  | unreadable (error : Yaml.ReadError)
  deriving DecidableEq, Repr

def defaultPath : String :=
  "configs/default.yaml"

def pathVariable : String :=
  "SEQPROVER_CONFIG"

/-- A value without any content to speak of stands for no settings at all. -/
def orEmpty (value : Yaml.Value) : Yaml.Value :=
  if value.isTruthy then value else .map []

/-- The settings in a file. -/
def loadFile (reader : Yaml.Reader) (origin : Origin) (path : String) :
    m (Except LoadError Settings) := do
  match ← Host.loadText path with
  | .error e => return .error (.unread path e)
  | .ok content =>
    match reader content with
    | .error e => return .error (.unreadable e)
    | .ok value => return .ok ⟨origin, ← resolve (orEmpty value)⟩

/-- The place to load settings from if none is asked for: a variable names it, or else the
working directory has it, or else the library does. -/
def locate : m Origin := do
  match (← Host.environment pathVariable).filter (· ≠ "") with
  | some path => return .given path
  | none =>
    match ← Host.present defaultPath with
    | .ok true => return .workingDirectory
    | _ => return .builtIn

def loadOrigin (reader : Yaml.Reader) : Origin → m (Except LoadError Settings)
  | .given path => loadFile reader (.given path) path
  | .workingDirectory => loadFile reader .workingDirectory defaultPath
  | .builtIn => return .ok ⟨.builtIn, ← resolve builtIn⟩

/-- Loads settings from a file, or without a name from the usual place. -/
def load (reader : Yaml.Reader) (path : Option String) : m (Except LoadError Settings) := do
  match path.filter (· ≠ "") with
  | some path => loadOrigin reader (.given path)
  | none => loadOrigin reader (← locate)

/-- The settings in force, given those in force before. They are loaded if there are none
yet or if a place is named. -/
def obtain (reader : Yaml.Reader) (kept : Option Settings) (path : Option String) :
    m (Except LoadError Settings) :=
  match kept, path with
  | some settings, none => return .ok settings
  | _, _ => load reader path

end Turnstile.Settings

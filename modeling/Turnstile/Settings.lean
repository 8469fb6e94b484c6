import Turnstile.Host
import Turnstile.Text.Split
import Turnstile.Yaml.Value

/-! Settings: nested named values, looked up by dotted keys and changed by laying other
values over them. -/
namespace Turnstile

/-- Where settings come from: a file that was asked for, the file that the working directory
has for them, or the library itself. -/
inductive Origin where
  | given (path : String)
  | workingDirectory
  | builtIn
  deriving DecidableEq, Repr

structure Settings where
  origin : Origin
  value : Yaml.Value

namespace Settings

def builtIn : Yaml.Value :=
  .ofJson (.object [
    ("search", .object [("strategy", .text "backward")]),
    ("format", .object [("output", .text "$\x7bSEQPROVER_OUTPUT_FORMAT:sequent\x7d")]),
    ("output", .object [("show_rules", .bool false)]),
    ("logging", .object [("level", .text "$\x7bSEQPROVER_LOG_LEVEL:WARNING\x7d"),
      ("format", .text "%(levelname)s %(name)s: %(message)s")])])

/-- Follows names through mappings. -/
def lookup : List String → Yaml.Value → Option Yaml.Value
  | [], value => some value
  | name :: names, .map entries => (Yaml.Entries.get? entries name).bind (lookup names)
  | _ :: _, _ => none

/-- The names that a key is made of, with dots between them. -/
def names (key : String) : List String :=
  (Text.split '.' key.toList).map String.ofList

def get? (s : Settings) (key : String) : Option Yaml.Value :=
  lookup (names key) s.value

/-- Why an update cannot be laid over a value. -/
inductive MergeError where
  | updateNotAnObject
  /-- An object is to go into a value that is no mapping. -/
  | noPlaceForObject
  /-- A plain value is to go into a value that is no mapping. -/
  | noPlaceForValue
  deriving DecidableEq, Repr

mutual

/-- Lays fields over a value, one after the other. The first that does not fit ends this, and
what was changed until then stays changed. -/
def mergeFields (value : Yaml.Value) : Fields Json → Yaml.Value × Option MergeError
  | [] => (value, none)
  | (name, update) :: rest =>
    match mergeField value name update with
    | (changed, none) => mergeFields changed rest
    | (changed, some e) => (changed, some e)

/-- An object is laid over what the field holds so far; any other value takes its place. -/
def mergeField (value : Yaml.Value) (name : String) : Json → Yaml.Value × Option MergeError
  | .object updates =>
    match value with
    | .map entries =>
      match mergeFields ((Yaml.Entries.get? entries name).getD (.map [])) updates with
      | (merged, error) => (.map (Yaml.Entries.set entries (.text name) merged), error)
    | _ => (value, some .noPlaceForObject)
  | plain =>
    match value with
    | .map entries => (.map (Yaml.Entries.set entries (.text name) (.ofJson plain)), none)
    | _ => (value, some .noPlaceForValue)

end

def merge (value : Yaml.Value) (update : Json) : Yaml.Value × Option MergeError :=
  match update with
  | .object updates => mergeFields value updates
  | _ => (value, some .updateNotAnObject)

def update (s : Settings) (update : Json) : Settings × Option MergeError :=
  match merge s.value update with
  | (value, error) => ({ s with value }, error)

end Settings

end Turnstile

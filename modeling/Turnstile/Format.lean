import Turnstile.Glyphs
import Turnstile.Path
import Turnstile.Registry

/-! Text formats for sequents. All formats are read alike; they differ in how they spell the
symbols when a sequent is written. -/
namespace Turnstile

structure Format where
  name : String
  extensions : List String
  glyphs : Glyphs

namespace Format

def unicode : Format :=
  ⟨"sequent", [".seq", ".sequent"], .unicode⟩

def ascii : Format :=
  ⟨"ascii", [".txt"], .ascii⟩

inductive Error where
  | unknown (name : String)
  | noneFor (extension : String)
  | unspecified
  deriving DecidableEq, Repr

def Error.message : Error → String
  | unknown name => "Unknown file format: " ++ name
  | noneFor extension => "No handler found for file extension: " ++ extension
  | unspecified => "Either format_name or file_path must be provided"

def defaults : Registry Format :=
  (Registry.empty.register "sequent" unicode).register "ascii" ascii

def named (registry : Registry Format) (name : String) : Except Error Format :=
  match registry.find? name with
  | some format => .ok format
  | none => .error (.unknown name)

/-- The first format with the extension of a file. -/
def forFile (registry : Registry Format) (path : String) : Except Error Format :=
  let extension := Path.suffix path
  match registry.entries.find? fun (_, format) => format.extensions.contains extension with
  | some (_, format) => .ok format
  | none => .error (.noneFor extension)

/-- A format by its name or else by a file's extension. Empty texts count as missing. -/
def select (registry : Registry Format) (name path : Option String) : Except Error Format :=
  match name.filter (· ≠ ""), path.filter (· ≠ "") with
  | some name, _ => named registry name
  | none, some path => forFile registry path
  | none, none => .error .unspecified

def write (f : Format) (s : Sequent) : String :=
  s.render f.glyphs

end Format

end Turnstile

import Turnstile.Fields
import Turnstile.Path

/-! What a program needs from where it runs: files and environment variables. A workspace is
a directory held in memory, so that whole runs can be carried out and reasoned about without
touching a disk. -/
namespace Turnstile

inductive FileError where
  | missing
  | isDirectory
  | notDirectory
  | nameTooLong
  /-- No name may hold the null character. -/
  | nullInName
  deriving DecidableEq, Repr

class Host (m : Type → Type) where
  /-- Whether a file or directory of this name exists. -/
  present : String → m (Except FileError Bool)
  load : String → m (Except FileError ByteArray)
  save : String → ByteArray → m (Except FileError Unit)
  environment : String → m (Option String)

/-- Files by the parts of their names, and environment variables. Names that start with a slash
are outside the working directory, as are those that start with two dots. -/
structure Workspace where
  files : List (List String × ByteArray)
  environment : Fields String

namespace Workspace

/-- What a path leads to. -/
inductive Target where
  | file (parts : List String) (content : ByteArray)
  | directory
  /-- Nothing yet, but a file of this name can be made. -/
  | vacant (parts : List String)

/-- A file that is always empty. -/
def nullDevice : List String :=
  ["/", "dev", "null"]

/-- Directories that are there without any file of the workspace. -/
def outerDirectories : List (List String) :=
  [["/"], ["/", "dev"], ["/", "tmp"], ["/", "etc"], ["/", "usr"], ["/", "var"], ["/", "home"]]

def isDirectory (w : Workspace) (parts : List String) : Bool :=
  parts.all (· = "..") || outerDirectories.contains parts ||
    w.files.any fun (file, _) => parts.isPrefixOf file && parts ≠ file

def content? (w : Workspace) (parts : List String) : Option ByteArray :=
  if parts = nullDevice then some .empty else (w.files.find? (·.1 = parts)).map (·.2)

/-- The directory around another. Nothing is around the outermost. -/
def parent (parts : List String) : List String :=
  if parts.all (· = "..") then parts ++ [".."]
  else if parts = ["/"] then parts
  else parts.dropLast

/-- The most bytes of a part of a name, and of a name. -/
def partLimit : Nat :=
  255

def pathLimit : Nat :=
  4095

/-- Follows a path from what is reached so far. Only directories can be passed. -/
def follow (w : Workspace) (reached : List String) : List String → Except FileError Target
  | [] =>
    match w.content? reached with
    | some content => .ok (.file reached content)
    | none => .ok .directory
  | part :: rest =>
    if (w.content? reached).isSome then .error .notDirectory
    else if part = "." then follow w reached rest
    else if part = ".." then follow w (parent reached) rest
    else if partLimit < part.utf8ByteSize then .error .nameTooLong
    else
      let next := reached ++ [part]
      if (w.content? next).isSome || w.isDirectory next then follow w next rest
      else if rest.isEmpty then .ok (.vacant next)
      else .error .missing

/-- All parts between slashes. -/
def steps (path : String) : List String :=
  ((Text.split '/' path.toList).map String.ofList).filter (· ≠ "")

def origin (path : String) : List String :=
  if path.startsWith "/" then ["/"] else []

def checkName (path : String) : Except FileError Unit :=
  if path.toList.contains '\x00' then .error .nullInName
  else if path = "" then .error .missing
  else if pathLimit < path.utf8ByteSize then .error .nameTooLong
  else .ok ()

/-- What a path leads to. Only a directory can have a slash behind its name. -/
def target (w : Workspace) (path : String) : Except FileError Target := do
  checkName path
  match ← w.follow (origin path) (steps path), path.endsWith "/" with
  | .file _ _, true => throw .notDirectory
  | .vacant _, true => throw .missing
  | found, _ => return found

def present (w : Workspace) (path : String) : Except FileError Bool :=
  match w.target path with
  | .ok (.file _ _) | .ok .directory => .ok true
  | .ok (.vacant _) => .ok false
  | .error .nameTooLong => .error .nameTooLong
  | .error _ => .ok false

def load (w : Workspace) (path : String) : Except FileError ByteArray := do
  match ← w.target path with
  | .file _ content => return content
  | .directory => throw .isDirectory
  | .vacant _ => throw .missing

/-- Writes a file, keeping the place of one that exists. -/
def put (w : Workspace) (parts : List String) (content : ByteArray) : Workspace :=
  if parts = nullDevice then w
  else if (w.content? parts).isSome then
    { w with files := w.files.map fun (file, old) => (file, if file = parts then content else old) }
  else { w with files := w.files ++ [(parts, content)] }

/-- The place to write a file to. A name with a slash behind it is a directory's, whether there
is one or not. -/
def destination (w : Workspace) (path : String) : Except FileError (List String) := do
  checkName path
  if path.endsWith "/" then
    match ← w.follow (origin path) (steps path).dropLast with
    | .file _ _ => throw .notDirectory
    | .vacant _ => throw .missing
    | .directory => throw .isDirectory
  else
    match ← w.follow (origin path) (steps path) with
    | .file parts _ | .vacant parts => return parts
    | .directory => throw .isDirectory

def save (w : Workspace) (path : String) (content : ByteArray) : Except FileError Workspace :=
  (w.destination path).map fun parts => w.put parts content

instance : Host (StateM Workspace) where
  present path := return (← get).present path
  load path := return (← get).load path
  save path content := do
    match (← get).save path content with
    | .ok w => set w; return .ok ()
    | .error e => return .error e
  environment name := return (← get).environment.get? name

end Workspace

/-- Why a file does not give a text. -/
inductive LoadError where
  | file (error : FileError)
  | notUtf8
  deriving DecidableEq, Repr

namespace Host

variable {m : Type → Type} [Monad m] [Host m]

def loadText (path : String) : m (Except LoadError String) := do
  match ← load path with
  | .error e => return .error (.file e)
  | .ok bytes =>
    match String.fromUTF8? bytes with
    | some text => return .ok text
    | none => return .error .notUtf8

def saveText (path text : String) : m (Except FileError Unit) :=
  save path text.toUTF8

end Host

end Turnstile

import Turnstile.Format
import Turnstile.Host
import Turnstile.Log
import Turnstile.Parsing
import Turnstile.Text.Blank
import Turnstile.Text.Lines

/-! Files of sequents: one on each line, with blank lines and comments between them. -/
namespace Turnstile.SequentFile

/-- A line that is no sequent. -/
structure LineError where
  line : Nat
  error : SyntaxError
  deriving DecidableEq, Repr

def LineError.diagnostic (e : LineError) : Diagnostic :=
  ⟨"Line " ++ toString e.line ++ ": " ++ e.error.complaint.message, e.error.position⟩

/-- The sequents read from a file with the numbers of their lines, and the first line that
could not be read, if any. Nothing after that line is read. -/
structure Scan where
  entries : List (Nat × Sequent)
  stop : Option LineError
  deriving DecidableEq, Repr

/-- Whether a line holds no sequent: it is blank, or its first visible character starts a
comment. -/
def isNoise (line : List Char) : Bool :=
  match line.dropWhile Text.isBlank with
  | [] => true
  | c :: _ => c == '#'

def scanLines (number : Nat) : List (List Char) → Scan
  | [] => ⟨[], none⟩
  | line :: rest =>
    if isNoise line then scanLines (number + 1) rest
    else
      match Sequent.parse (String.ofList line) with
      | .error e => ⟨[], some ⟨number, e⟩⟩
      | .ok s =>
        let others := scanLines (number + 1) rest
        { others with entries := (number, s) :: others.entries }

def scan (content : String) : Scan :=
  scanLines 1 (Text.splitLines content.toList)

/-- One record for every sequent that was read. -/
def Scan.log (s : Scan) : List LogRecord :=
  s.entries.map fun (line, sequent) =>
    ⟨.sequentFile, "Parsed line " ++ toString line ++ ": " ++ sequent.text⟩

/-- The sequents of a file, provided all of its lines can be read. -/
def Scan.complete (s : Scan) : Except LineError (List (Nat × Sequent)) :=
  match s.stop with
  | some e => .error e
  | none => .ok s.entries

def content (f : Format) (sequents : List Sequent) : String :=
  String.join (sequents.map fun s => f.write s ++ "\n")

variable {m : Type → Type} [Monad m] [Host m]

def load (path : String) : m (Except LoadError Scan) :=
  return (← Host.loadText path).map scan

def save (f : Format) (path : String) (sequents : List Sequent) : m (Except FileError Unit) :=
  Host.saveText path (content f sequents)

end Turnstile.SequentFile

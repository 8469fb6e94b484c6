import Turnstile.Document.Encoding
import Turnstile.Format
import Turnstile.Host

/-! Sequents, proof trees and documents kept in JSON files, two blanks for each level. -/
namespace Turnstile

variable {m : Type → Type} [Monad m] [Host m]

def Sequent.save (s : Sequent) (path : String) : m (Except FileError Unit) :=
  Host.saveText (Path.tidy path) (s.encode .text (some 2))

def Derivation.save (d : Derivation) (path : String) : m (Except FileError Unit) :=
  Host.saveText (Path.tidy path) (d.encode (some 2))

namespace Document

/-- Why a document is not kept in a file, or only a part of it. -/
inductive SaveError where
  | unwritten (error : FileError)
  | unrendered (error : TextError)
  /-- A proof tree is no part of a sequent. -/
  | unencoded
  deriving DecidableEq, Repr

/-- Writes a text and then complains, if there is something to complain about. -/
def saveUpTo (path written : String) (complaint : Option SaveError) :
    m (Except SaveError Unit) := do
  match ← Host.saveText path written with
  | .error e => return .error (.unwritten e)
  | .ok () =>
    match complaint with
    | some e => return .error e
    | none => return .ok ()

/-- Keeps a document that should be a sequent. What comes before a part that cannot be encoded
is written all the same. -/
def save (d : Document) (path : String) : m (Except SaveError Unit) :=
  match d.encode .sequents ⟨some 2, true⟩ with
  | .ok whole => saveUpTo (Path.tidy path) whole none
  | .error start => saveUpTo (Path.tidy path) start (some .unencoded)

/-- The lines of documents up to the first that cannot be rendered. -/
def lines (f : Format) : List Document → String × Option SaveError
  | [] => ("", none)
  | d :: rest =>
    match renderText (.ofGlyphs f.glyphs) d with
    | .error e => ("", some (.unrendered e))
    | .ok line =>
      let (others, complaint) := lines f rest
      (line ++ "\n" ++ others, complaint)

/-- Keeps documents that should be sequents, one on each line. -/
def saveLines (f : Format) (path : String) (documents : List Document) :
    m (Except SaveError Unit) :=
  let (written, complaint) := lines f documents
  saveUpTo path written complaint

/-- Why a file gives no document. -/
inductive StorageError where
  | unread (error : LoadError)
  | undecoded (error : Json.ReadError DecodeError)

def load (v : Vocabulary) (path : String) : m (Except StorageError Document) := do
  match ← Host.loadText (Path.tidy path) with
  | .error e => return .error (.unread e)
  | .ok content => return (decode v content).mapError .undecoded

end Document

end Turnstile

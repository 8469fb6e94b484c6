import Turnstile.Display
import Turnstile.Document.Encoding
import Turnstile.Log.Layout
import Turnstile.Outline
import Turnstile.Search.Logged
import Turnstile.SequentFile

/-! What the program says about one sequent and about a file of them. -/
namespace Turnstile.CommandLine

inductive Status where
  | proved
  | refused
  | unproved
  deriving DecidableEq, Repr

def Status.exitCode : Status → Nat
  | proved => 0
  | refused => 1
  | unproved => 2

def Status.ofProved (proved : Bool) : Status :=
  if proved then .proved else .unproved

/-- How to prove and how to say it. -/
structure Setup where
  format : Format
  rules : List Rule
  showRules : Bool
  /-- The layout of the log, if it is shown at all. -/
  layout : Option Log.Layout

def Setup.log (s : Setup) (records : List LogRecord) : List String :=
  match s.layout with
  | some layout => records.map layout.render
  | none => []

/-- The lines of a report, and the text that can be saved along with it. -/
structure Report where
  status : Status
  out : List String
  err : List String
  product : Option String

def verdict (proved : Bool) : String :=
  if proved then "✓ Provable" else "✗ Not provable"

def searchRecords (rules : List Rule) (s : Sequent) : List LogRecord :=
  ((s.prove rules).run []).2

namespace Setup

def outline (s : Setup) (d : Derivation) : String :=
  (d.map (·.render s.format.glyphs) id).outline fun label =>
    if s.showRules then label.filter (· ≠ "") else none

def branchLine (s : Setup) (failed : Sequent) : String :=
  "  Counterexample branch: " ++ s.format.write failed

/-- The lines on a proof tree. Every failed branch is shown, so there are none for a proof. -/
def describe (s : Setup) (quiet : Bool) (d : Derivation) : List String :=
  if quiet then [verdict d.isProved]
  else [s.outline d, "", verdict d.isProved] ++ d.failedSequents.map s.branchLine

/-- Proves the sequent that a text says. -/
def reportText (s : Setup) (quiet : Bool) (text : String) : Report :=
  match Sequent.parse text with
  | .error e =>
    { status := .refused, out := [],
      err := ["Syntax error: " ++ e.complaint.message, e.diagnostic.highlight text],
      product := none }
  | .ok sequent =>
    let d := sequent.derive s.rules
    { status := .ofProved d.isProved, out := s.describe quiet d,
      err := s.log (searchRecords s.rules sequent), product := some (d.encode (some 2)) }

/-- A sequent of a file with its line number and proof tree. -/
structure Entry where
  line : Nat
  sequent : Sequent
  derivation : Derivation

def entryLine (s : Setup) (e : Entry) : String :=
  Log.pad false 4 (toString e.line) ++ "  " ++ (if e.derivation.isProved then "✓" else "✗") ++
    "  " ++ s.format.write e.sequent

def summary (entries : List Entry) : String :=
  toString (entries.countP (·.derivation.isProved)) ++ "/" ++ toString entries.length ++ " provable"

def entryJson (s : Setup) (e : Entry) : Json :=
  .object [("line", .number e.line), ("proved", .bool e.derivation.isProved),
    ("derivation", Display.ofDerivation s.format.glyphs e.derivation)]

/-- Proves all sequents of a file. One line that is none stops it all. -/
def reportScan (s : Setup) (scan : SequentFile.Scan) : Report :=
  match scan.complete with
  | .error e =>
    { status := .refused, out := [],
      err := s.log scan.log ++
        ["Syntax error: " ++ e.diagnostic.message ++ " (column " ++
          toString (e.error.position + 1) ++ ")"],
      product := none }
  | .ok found =>
    let entries := found.map fun (line, sequent) => Entry.mk line sequent (sequent.derive s.rules)
    { status := .ofProved (entries.all (·.derivation.isProved)),
      out := entries.map s.entryLine ++ ["", summary entries],
      err := s.log (scan.log ++ found.flatMap fun (_, sequent) => searchRecords s.rules sequent),
      product := some ((Json.array (entries.map s.entryJson)).render ⟨some 2, false⟩) }

end Setup

end Turnstile.CommandLine

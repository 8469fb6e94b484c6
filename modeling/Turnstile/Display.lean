import Turnstile.Json
import Turnstile.Parsing
import Turnstile.Search

/-! The display encoding of proof trees: nested JSON objects with rendered sequents, from
which the tree can be read back. -/
namespace Turnstile

namespace Display

variable {σ ρ : Type}

def failJson : Json :=
  .object [("fail", .bool true)]

def nodeJson (s label : Json) (closed : Bool) (children : List Json) : Json :=
  .object [("sequent", s), ("rule", label), ("closed", .bool closed),
    ("children", .array children)]

def write (sequentJson : σ → Json) (labelJson : ρ → Json) : ProofTree σ ρ → Json
  | .closed s l => nodeJson (sequentJson s) (labelJson l) true []
  | .failed s l => nodeJson (sequentJson s) (labelJson l) false [failJson]
  | .single s l t =>
    nodeJson (sequentJson s) (labelJson l) false [write sequentJson labelJson t]
  | .double s l t u =>
    nodeJson (sequentJson s) (labelJson l) false
      [write sequentJson labelJson t, write sequentJson labelJson u]

/-- Why a value is no display encoding. -/
inductive ReadError where
  | notAnObject
  | missing (field : String)
  | notText
  | notIterable
  | unreadable (error : SyntaxError)
  | shape (error : ProofTree.ShapeError)
  deriving DecidableEq, Repr

/-- A sequent's text must be a text and parse. -/
def readSequent : Json → Except ReadError Sequent
  | .text s => (Sequent.parse s).mapError .unreadable
  | _ => .error .notText

/-- Puts a node together from its fields and the reading of what stands below it. A node
that is marked as failed is a failure, and a sequent comes before what is below it. -/
def assemble (fields : Fields Json)
    (below : Except ReadError (List (ProofTree.Branch Sequent Json))) :
    Except ReadError (ProofTree.Branch Sequent Json) := do
  if ((fields.get? "fail").getD .null).isTruthy then return .fail
  let some written := fields.get? "sequent" | throw (.missing "sequent")
  let s ← readSequent written
  let branches ← below
  let tree ← (ProofTree.ofBranches s ((fields.get? "rule").getD .null) branches).mapError .shape
  return .tree tree

mutual

/-- Reads a tree, or a lone failure. Labels may be any values. -/
def read : Json → Except ReadError (ProofTree.Branch Sequent Json)
  | .object fields => assemble fields (readChildren fields)
  | _ => .error .notAnObject

def readChildren : Fields Json → Except ReadError (List (ProofTree.Branch Sequent Json))
  | [] => .error (.missing "children")
  | (name, value) :: rest => if name = "children" then readMembers value else readChildren rest

/-- Members of a text or of an object are texts, and none of them is a tree. -/
def readMembers : Json → Except ReadError (List (ProofTree.Branch Sequent Json))
  | .array items => readItems items
  | .text s => if s.isEmpty then .ok [] else .error .notAnObject
  | .object fields => if fields.isEmpty then .ok [] else .error .notAnObject
  | _ => .error .notIterable

def readItems : List Json → Except ReadError (List (ProofTree.Branch Sequent Json))
  | [] => .ok []
  | item :: rest => do
    let first ← read item
    let others ← readItems rest
    return first :: others

end

/-- The display encoding of a search's result. -/
def ofDerivation (g : Glyphs) (t : Derivation) : Json :=
  write .text Json.ofText? (t.map (·.render g) id)

end Display

/-- The tree with its sequents rendered. The first symbol without a spelling is an error. -/
def Derivation.renderWith (t : GlyphTable) (d : Derivation) :
    Except Glyph (ProofTree String (Option String)) :=
  d.mapSequents (·.renderWith t)

/-- The display encoding of a proof tree or of a lone failure, in the spellings of a table. -/
def Display.encode (t : GlyphTable) :
    ProofTree.Branch Sequent (Option String) → Except Glyph Json
  | .fail => .ok failJson
  | .tree d => (Derivation.renderWith t d).map (write .text Json.ofText?)

end Turnstile

import Turnstile.Display
import Turnstile.Guarded
import Turnstile.Strategy

/-! Answers for a program that shows proofs: from the text of a sequent to its verdict and
its rendered proof tree, or to a complaint about the text. As in the search, texts may nest to
any depth: a stack that overflows in reading, searching or rendering is none of the errors. -/
namespace Turnstile

inductive Answer where
  | refused (error : SyntaxError)
  | settled (sequent : String) (proved : Bool) (derivation : Json)

namespace Answer

def toJson : Answer → Json
  | refused e =>
    .object [("ok", .bool false),
      ("error", .object [("message", .text e.complaint.message), ("position", .number e.position)])]
  | settled sequent proved derivation =>
    .object [("ok", .bool true), ("sequent", .text sequent), ("proved", .bool proved),
      ("derivation", derivation)]

/-- What stands in the way of an answer, besides the text. A breach is a fault of the program. -/
inductive Error where
  | strategy (error : Strategy.Error)
  | glyph (missing : Glyph)
  | breach (message : String)

/-- The answer for a sequent and the tree of its search. -/
def ofDerivation (t : GlyphTable) (s : Sequent) (d : Derivation) : Except Glyph Answer :=
  match s.renderWith t with
  | .error missing => .error missing
  | .ok text => (Display.encode t (.tree d)).map (settled text d.isProved)

def ofSequent (rules : List Rule) (t : GlyphTable) (s : Sequent) : Except Error Answer :=
  match s.guardedDerive rules with
  | .error shape => .error (.breach shape.message)
  | .ok d => (ofDerivation t s d).mapError .glyph

/-- The answer to a text under a named strategy. The text is read before the strategy is
looked up. -/
def ofText (strategy : String) (t : GlyphTable) (text : String) : Except Error Answer :=
  match (Cursor.ofString text).guardedSequent.1 with
  | .error (.complaint e) => .ok (refused e)
  | .error (.breach message) => .error (.breach message)
  | .ok s =>
    match Strategy.select Strategy.defaults strategy none with
    | .error e => .error (.strategy e)
    | .ok rules => ofSequent rules t s

/-- The answer as it is handed to a program that shows it. -/
def payload (strategy : String) (t : GlyphTable) (text : String) : Except Error Json :=
  (ofText strategy t text).map toJson

end Answer

end Turnstile

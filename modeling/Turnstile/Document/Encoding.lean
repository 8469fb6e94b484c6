import Turnstile.Document.Decoding
import Turnstile.Json.Writer

/-! The JSON encoding of formulas, sequents, proof trees and documents. -/
namespace Turnstile

variable {α : Type}

def Formula.toJson (name : α → Json) : Formula α → Json
  | var n => .object [("_type", .text "Variable"), ("name", name n)]
  | neg a => .object [("_type", .text "Not"), ("child", a.toJson name)]
  | conj a b =>
    .object [("_type", .text "And"), ("left", a.toJson name), ("right", b.toJson name)]
  | disj a b =>
    .object [("_type", .text "Or"), ("left", a.toJson name), ("right", b.toJson name)]

def Sequent.toJson (name : α → Json) (s : Sequent α) : Json :=
  .object [("_type", .text "Sequent"), ("left", .array (s.left.map (Formula.toJson name))),
    ("right", .array (s.right.map (Formula.toJson name)))]

namespace Derivation

def nodeJson (s : Sequent) (label : Option String) (children : List Json) : Json :=
  .object [("_type", .text "SequentNode"), ("sequent", s.toJson .text),
    ("rule", Json.ofText? label), ("children", .array children)]

def failJson : Json :=
  .object [("_type", .text "FailLeaf")]

def toJson : Derivation → Json
  | .closed s l => nodeJson s l []
  | .failed s l => nodeJson s l [failJson]
  | .single s l t => nodeJson s l [toJson t]
  | .double s l t u => nodeJson s l [toJson t, toJson u]

/-- The text of a proof tree keeps all characters as they are. -/
def encode (indentation : Option Nat) (t : Derivation) : String :=
  (toJson t).render ⟨indentation, false⟩

end Derivation

/-- The text of a sequent is plain ASCII. -/
def Sequent.encode (name : α → Json) (indentation : Option Nat) (s : Sequent α) : String :=
  (s.toJson name).render ⟨indentation, true⟩

namespace Document

def typeField (name : String) : String × Json :=
  ("_type", .text name)

/-- Adds a field that is encoded after others. -/
def thenField (fields : List (String × Json)) (key : String) :
    Except Json Json → Except Json (List (String × Json))
  | .ok value => .ok (fields ++ [(key, value)])
  | .error cut => .error (.object (fields ++ [(key, cut)]))

def arrayJson : Except (List Json) (List Json) → Except Json Json
  | .ok items => .ok (.array items)
  | .error cut => .error (.array cut)

def pairJson (name : String) (left right : Except Json Json) : Except Json Json := do
  let fields ← thenField [typeField name] "left" left
  return .object (← thenField fields "right" right)

def sequentJson (left right : Except (List Json) (List Json)) : Except Json Json :=
  pairJson "Sequent" (arrayJson left) (arrayJson right)

def nodeJson (s label : Except Json Json) (children : Except (List Json) (List Json)) :
    Except Json Json := do
  let fields ← thenField [typeField "SequentNode"] "sequent" s
  let fields ← thenField fields "rule" label
  return .object (← thenField fields "children" (arrayJson children))

mutual

/-- The encoding of a document. Proof trees have one only in the larger vocabulary. At a part
that has none the encoding ends: then the last part of every value that is still open is the
one that could not be finished. -/
def toJson (v : Vocabulary) : Document → Except Json Json
  | null => .ok .null
  | bool b => .ok (.bool b)
  | number n => .ok (.number n)
  | real literal => .ok (.real literal)
  | text s => .ok (.text s)
  | broken codes => .ok (.broken codes)
  | array items => arrayJson (itemsJson v items)
  | object fields =>
    match fieldsJson v fields with
    | .ok fields => .ok (.object fields)
    | .error fields => .error (.object fields)
  | var name => (thenField [typeField "Variable"] "name" (toJson v name)).map .object
  | neg a => (thenField [typeField "Not"] "child" (toJson v a)).map .object
  | conj a b => pairJson "And" (toJson v a) (toJson v b)
  | disj a b => pairJson "Or" (toJson v a) (toJson v b)
  | sequent l r => sequentJson (itemsJson v l) (itemsJson v r)
  | fail => if v = .derivations then .ok Derivation.failJson else .error .null
  | node s l children =>
    if v = .sequents then .error .null
    else nodeJson (toJson v s) (toJson v l) (itemsJson v children)

def itemsJson (v : Vocabulary) : List Document → Except (List Json) (List Json)
  | [] => .ok []
  | d :: rest =>
    match toJson v d with
    | .error cut => .error [cut]
    | .ok first =>
      match itemsJson v rest with
      | .ok others => .ok (first :: others)
      | .error others => .error (first :: others)

def fieldsJson (v : Vocabulary) :
    List (String × Document) → Except (List (String × Json)) (List (String × Json))
  | [] => .ok []
  | (key, value) :: rest =>
    match toJson v value with
    | .error cut => .error [(key, cut)]
    | .ok first =>
      match fieldsJson v rest with
      | .ok others => .ok ((key, first) :: others)
      | .error others => .error ((key, first) :: others)

end

/-- A value for display, where proof trees are no worse than others. -/
def plainJson (d : Document) : Json :=
  match toJson .derivations d with
  | .ok json | .error json => json

/-- The text of a document as far as it has one: all of it, or what stands before the first
part without an encoding. -/
def encode (v : Vocabulary) (style : Json.Style) (d : Document) : Except String String :=
  match toJson v d with
  | .ok json => .ok (json.render style)
  | .error cut => .error (cut.renderOpen style)

end Document

end Turnstile

import Turnstile.Document.Text
import Turnstile.Json.Reader

/-! Decoding JSON texts into documents. An object is turned into a record as soon as it
closes, if its `_type` is one that the vocabulary knows. -/
namespace Turnstile.Document

/-- Which objects are records: formulas and sequents only, or proof trees too. -/
inductive Vocabulary where
  | sequents
  | derivations
  deriving DecidableEq, Repr

/-- Why an object cannot be turned into the record that it claims to be. -/
inductive DecodeError where
  | missing (field : String)
  | notIterable
  | shape (error : ProofTree.ShapeError)
  | invalidChild (description : String)
  | undescribed (error : TextError)
  deriving DecidableEq, Repr

def DecodeError.message : DecodeError → String
  | missing field => "Missing field: " ++ field
  | notIterable => "A value without members in place of a collection"
  | shape error => error.message
  | invalidChild description => "Invalid derivation child: " ++ description
  | undescribed _ => "Invalid derivation child"

def ofScalar : Json.Scalar → Document
  | .null => null
  | .bool b => bool b
  | .number n => number n
  | .real literal => real literal
  | .text s => text s
  | .broken codes => broken codes

def field (fields : Fields Document) (name : String) : Except DecodeError Document :=
  match fields.get? name with
  | some value => .ok value
  | none => .error (.missing name)

/-- The members of a collection: items of an array, characters of a text, names of an
object's fields. -/
def members : Document → Except DecodeError (List Document)
  | array items => .ok items
  | text s => .ok (s.toList.map fun c => text (String.singleton c))
  | broken codes => .ok (codes.map fun code => ofScalar (.ofCodes [code]))
  | object fields => .ok (fields.map fun (name, _) => text name)
  | _ => .error .notIterable

/-- The first of a node's children that is neither a node nor a failure, described. -/
def checkChildren : List Document → Except DecodeError Unit
  | [] => .ok ()
  | fail :: rest | node _ _ _ :: rest => checkChildren rest
  | child :: _ =>
    match describe child with
    | .ok description => .error (.invalidChild description)
    | .error e => .error (.undescribed e)

/-- A node, if its children can stand below one: at most two, all of them nodes or
failures, and a failure only alone. -/
def makeNode (s label : Document) (children : List Document) : Except DecodeError Document :=
  if 2 < children.length then .error (.shape (.tooMany children.length))
  else
    match checkChildren children with
    | .error e => .error e
    | .ok () =>
      match children with
      | [fail, _] | [_, fail] => .error (.shape .strayFail)
      | _ => .ok (node s label children)

def closeNode (fields : Fields Document) : Except DecodeError Document := do
  let s ← field fields "sequent"
  let children ← members (← field fields "children")
  makeNode s ((fields.get? "rule").getD null) children

def closeSequent (fields : Fields Document) : Except DecodeError Document := do
  let left ← field fields "left"
  let right ← field fields "right"
  return sequent (← members left) (← members right)

/-- What an object becomes when it closes. -/
def close (v : Vocabulary) (fields : Fields Document) : Except DecodeError Document :=
  match fields.get? "_type" with
  | some (text "Variable") => do return var (← field fields "name")
  | some (text "Not") => do return neg (← field fields "child")
  | some (text "And") => do return conj (← field fields "left") (← field fields "right")
  | some (text "Or") => do return disj (← field fields "left") (← field fields "right")
  | some (text "Sequent") => closeSequent fields
  | some (text "FailLeaf") => .ok (if v = .derivations then fail else object fields)
  | some (text "SequentNode") => if v = .derivations then closeNode fields else .ok (object fields)
  | _ => .ok (object fields)

def builder (v : Vocabulary) : Json.Builder DecodeError Document :=
  ⟨ofScalar, array, close v⟩

/-- A value as it is, without any records. -/
def ofPlain (json : Json) : Document :=
  let plain : Json.Builder Empty Document := ⟨ofScalar, array, fun fields => .ok (object fields)⟩
  match json.fold plain with
  | .ok d => d

/-- Decodes a value that has been read as plain JSON. -/
def ofJson (v : Vocabulary) (json : Json) : Except DecodeError Document :=
  json.fold (builder v)

def decode (v : Vocabulary) (json : String) : Except (Json.ReadError DecodeError) Document :=
  Json.read (builder v) json

end Turnstile.Document

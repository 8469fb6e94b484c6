import Turnstile.Json
import Turnstile.Search

/-! Documents: what a JSON text may decode to. Objects that are marked as formulas, sequents
or proof trees become records, but nothing checks the types of their parts, so a document is
a loosely typed value. The well-typed ones are those that `ofFormula`, `ofSequent` and
`ofDerivation` make. -/
namespace Turnstile

inductive Document where
  | null
  | bool (value : Bool)
  | number (value : Int)
  | real (literal : String)
  | text (value : String)
  /-- A text with surrogates in it. -/
  | broken (codes : List Nat)
  | array (items : List Document)
  | object (fields : List (String × Document))
  | var (name : Document)
  | neg (operand : Document)
  | conj (left right : Document)
  | disj (left right : Document)
  | sequent (left right : List Document)
  | fail
  | node (sequent label : Document) (children : List Document)
  deriving Repr, Inhabited

namespace Document

variable {α : Type}

def ofFormula (name : α → Document) : Formula α → Document
  | .var n => var (name n)
  | .neg a => neg (ofFormula name a)
  | .conj a b => conj (ofFormula name a) (ofFormula name b)
  | .disj a b => disj (ofFormula name a) (ofFormula name b)

def ofSequent (name : α → Document) (s : Sequent α) : Document :=
  sequent (s.left.map (ofFormula name)) (s.right.map (ofFormula name))

/-- A label that is missing is the null value. -/
def ofLabel : Option String → Document
  | some label => text label
  | none => null

def ofTree : ProofTree Document Document → Document
  | .closed s l => node s l []
  | .failed s l => node s l [fail]
  | .single s l t => node s l [ofTree t]
  | .double s l t u => node s l [ofTree t, ofTree u]

def ofDerivation (t : Derivation) : Document :=
  ofTree (t.map (ofSequent text) ofLabel)

def toFormula? : Document → Option Formula
  | var (text n) => some (.var n)
  | neg a => (toFormula? a).map .neg
  | conj a b => do return .conj (← toFormula? a) (← toFormula? b)
  | disj a b => do return .disj (← toFormula? a) (← toFormula? b)
  | _ => none

def toSequent? : Document → Option Sequent
  | sequent left right => do return ⟨← left.mapM toFormula?, ← right.mapM toFormula?⟩
  | _ => none

/-- The outermost form of a formula. -/
def kind? : Document → Option Formula.Kind
  | var _ => some .var
  | neg _ => some .neg
  | conj _ _ => some .conj
  | disj _ _ => some .disj
  | _ => none

/-- The index of the first formula of one of the given forms. -/
def firstOfKind? (kinds : List Formula.Kind) (documents : List Document) : Option Nat :=
  documents.findIdx? fun d => d.kind?.any kinds.contains

mutual

def connectives : Document → Nat
  | neg a => connectives a + 1
  | conj a b | disj a b => connectives a + connectives b + 1
  | sequent l r => connectivesOf l + connectivesOf r
  | _ => 0

def connectivesOf : List Document → Nat
  | [] => 0
  | d :: rest => connectives d + connectivesOf rest

end

mutual

/-- Variable names from left to right, as far as they are texts. -/
def names : Document → List String
  | var (text n) => [n]
  | neg a => names a
  | conj a b | disj a b => names a ++ names b
  | sequent l r => namesOf l ++ namesOf r
  | _ => []

def namesOf : List Document → List String
  | [] => []
  | d :: rest => names d ++ namesOf rest

end

mutual

/-- The tree below a node, if its shape is that of a proof tree. -/
def toTree? : Document → Option (ProofTree Document Document)
  | node s l children =>
    (toBranches? children).bind fun bs => (ProofTree.ofBranches s l bs).toOption
  | _ => none

def toBranches? : List Document → Option (List (ProofTree.Branch Document Document))
  | [] => some []
  | fail :: rest => (toBranches? rest).map (.fail :: ·)
  | child :: rest =>
    match toTree? child with
    | some t => (toBranches? rest).map (.tree t :: ·)
    | none => none

end

mutual

/-- Equality of documents. Truth values equal the numbers zero and one, and the order of an
object's fields does not count. -/
def same : Document → Document → Bool
  | null, null => true
  | bool a, bool b => a == b
  | bool a, number n => n == a.toNat
  | number n, bool a => n == a.toNat
  | number m, number n => m == n
  | real a, real b => a == b
  | text s, text t => s == t
  | broken a, broken b => a == b
  | array xs, array ys => sameItems xs ys
  | object fs, object gs => fs.length == gs.length && sameFields fs gs
  | var a, var b => same a b
  | neg a, neg b => same a b
  | conj a b, conj c d => same a c && same b d
  | disj a b, disj c d => same a c && same b d
  | sequent l r, sequent l' r' => sameItems l l' && sameItems r r'
  | fail, fail => true
  | node s l cs, node s' l' cs' => same s s' && same l l' && sameItems cs cs'
  | _, _ => false

def sameItems : List Document → List Document → Bool
  | [], [] => true
  | x :: xs, y :: ys => same x y && sameItems xs ys
  | _, _ => false

def sameFields : List (String × Document) → Fields Document → Bool
  | [], _ => true
  | (key, v) :: rest, others =>
    match others.get? key with
    | some w => same v w && sameFields rest others
    | none => false

end

mutual

/-- Whether a document may be a member of a set: it holds no array and no object. -/
def isFrozen : Document → Bool
  | null | bool _ | number _ | real _ | text _ | broken _ | fail => true
  | array _ | object _ => false
  | var a | neg a => isFrozen a
  | conj a b | disj a b => isFrozen a && isFrozen b
  | sequent l r => areFrozen l && areFrozen r
  | node s l cs => isFrozen s && isFrozen l && areFrozen cs

def areFrozen : List Document → Bool
  | [] => true
  | x :: xs => isFrozen x && areFrozen xs

end

/-- Whether a document counts as true: all do but nothing, false, zero and what is empty. -/
def isTruthy : Document → Bool
  | null => false
  | bool b => b
  | number n => n != 0
  | real literal => !Json.isZeroLiteral literal
  | text s => !s.isEmpty
  | array items => !items.isEmpty
  | object fields => !fields.isEmpty
  | _ => true

/-- The number of distinct documents among two, or nothing if one cannot be in a set. -/
def distinct? (a b : Document) : Option Nat :=
  if isFrozen a && isFrozen b then some (if same a b then 1 else 2) else none

end Document

end Turnstile

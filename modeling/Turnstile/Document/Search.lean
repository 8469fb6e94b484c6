import Turnstile.Document.Decoding

/-! Backward search from loosely typed documents. A formula with parts that are no formulas is
read as one whose variables are called by those parts; the calculus does not look into them. -/
namespace Turnstile

namespace Document

/-- What stands where a formula has a variable: a variable of any name, or something that is
no formula at all. -/
inductive Atom where
  | named (name : Document)
  | foreign (value : Document)
  deriving Repr, Inhabited

/-- Only variables meet. -/
instance : Name Atom where
  meets
    | .named a, .named b => same a b
    | _, _ => false

def toAtoms : Document → Formula Atom
  | var name => .var (.named name)
  | neg a => .neg (toAtoms a)
  | conj a b => .conj (toAtoms a) (toAtoms b)
  | disj a b => .disj (toAtoms a) (toAtoms b)
  | d => .var (.foreign d)

def ofAtoms : Formula Atom → Document
  | .var (.named name) => var name
  | .var (.foreign d) => d
  | .neg a => neg (ofAtoms a)
  | .conj a b => conj (ofAtoms a) (ofAtoms b)
  | .disj a b => disj (ofAtoms a) (ofAtoms b)

theorem ofAtoms_toAtoms (d : Document) : ofAtoms (toAtoms d) = d := by
  induction d using toAtoms.induct <;> simp_all [toAtoms, ofAtoms]

end Document

namespace Sequent

def ofDocuments (left right : List Document) : Sequent Document.Atom :=
  ⟨left.map Document.toAtoms, right.map Document.toAtoms⟩

def toDocument (s : Sequent Document.Atom) : Document :=
  .sequent (s.left.map Document.ofAtoms) (s.right.map Document.ofAtoms)

end Sequent

namespace Document

/-- Why a rule cannot be tried on a document. -/
inductive InferError where
  /-- It has no sides. -/
  | noSides
  /-- A side has no members, or its members cannot be replaced. -/
  | notSequent
  deriving DecidableEq, Repr

def sideMembers (d : Document) : Except InferError (List Document) :=
  (members d).mapError fun _ => .notSequent

/-- Tries to close a pair of sides. The right one matters only if there is a variable on the
left. -/
def closePair (left right : Document) : Except InferError (Option (Inference Atom)) := do
  let left ← sideMembers left
  if left.any fun d => d.kind? == some .var then
    return Rule.closing.infer? (.ofDocuments left (← sideMembers right))
  else return none

/-- Looks for a formula on one side of a pair. Its place cannot be taken by others. -/
def searchSide (kinds : List Formula.Kind) (side : Document) :
    Except InferError (Option (Inference Atom)) := do
  let found := (← sideMembers side).any fun d => d.kind?.any (kinds.contains ·)
  if found then throw .notSequent else return none

/-- The inference of a rule from a document. Conjunctions and disjunctions have sides too, but
they hold no formulas that could be replaced. -/
def infer? (rule : Rule) : Document → Except InferError (Option (Inference Atom))
  | sequent l r => .ok (rule.infer? (.ofDocuments l r))
  | conj l r | disj l r =>
    match rule with
    | .closing => closePair l r
    | .leftUnfold => searchSide [.neg, .conj] l
    | .rightUnfold => searchSide [.neg, .disj] r
    | .leftBranch => searchSide [.disj] l
    | .rightBranch => searchSide [.conj] r
  | _ => .error .noSides

/-- The inference of the first rule in the list that applies. -/
def firstInference? (d : Document) : List Rule → Except InferError (Option (Inference Atom))
  | [] => .ok none
  | rule :: rest => do
    match ← infer? rule d with
    | some i => return some i
    | none => firstInference? d rest

/-- The tree below a premise, which is always a sequent. -/
def subtree (rules : List Rule) (premise : Sequent Atom) : ProofTree Document Document :=
  (premise.derive rules).map Sequent.toDocument ofLabel

/-- Searches backwards from a document. -/
def derive (rules : List Rule) (d : Document) :
    Except InferError (ProofTree Document Document) := do
  match ← firstInference? d rules with
  | none => return .failed d (ofLabel Derivation.failLabel)
  | some i =>
    let label := text i.rule.name
    match i.premises with
    | .none => return .closed d label
    | .one p => return .single d label (subtree rules p)
    | .two p q => return .double d label (subtree rules p) (subtree rules q)

/-- Why a search cannot be carried out and reported. -/
inductive SearchError where
  | infer (error : InferError)
  | text (error : TextError)
  deriving DecidableEq, Repr

def stepText (s : Step Atom) : Except TextError String :=
  (display s.sequent.toDocument).map (stepLine s.depth s.rule)

/-- The full report of a search. Every sequent is rendered when its turn comes. -/
def searchLog (rules : List Rule) (d : Document) : Except SearchError (List String) := do
  let root ← (display d).mapError .text
  let inferred ← (firstInference? d rules).mapError .infer
  let premises := (inferred.map fun i => i.premises.toList).getD []
  let below ← ((premises.flatMap (·.steps rules 1)).mapM stepText).mapError .text
  let tree ← (derive rules d).mapError .infer
  return openingLine root :: stepLine 0 (inferred.map (·.rule)) root :: below ++ [verdictLine tree]

end Document

end Turnstile

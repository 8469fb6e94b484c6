/-! Trees of proof attempts. A node carries a sequent and a label, and is closed, failed, or
rests on one or two subtrees; no other shape is possible. The types of sequents and labels
are free, because trees are also built of rendered sequents and of loosely typed records. -/
namespace Turnstile

inductive ProofTree (σ ρ : Type) where
  | closed (sequent : σ) (label : ρ)
  | failed (sequent : σ) (label : ρ)
  | single (sequent : σ) (label : ρ) (premise : ProofTree σ ρ)
  | double (sequent : σ) (label : ρ) (first second : ProofTree σ ρ)
  deriving DecidableEq, Repr

namespace ProofTree

variable {σ ρ τ υ : Type}

def sequent : ProofTree σ ρ → σ
  | closed s _ | failed s _ | single s _ _ | double s _ _ _ => s

def label : ProofTree σ ρ → ρ
  | closed _ l | failed _ l | single _ l _ | double _ l _ _ => l

/-- The number of things below a node. The mark of a failure counts as one. -/
def width : ProofTree σ ρ → Nat
  | closed _ _ => 0
  | failed _ _ | single _ _ _ => 1
  | double _ _ _ _ => 2

def isClosed : ProofTree σ ρ → Bool
  | closed _ _ => true
  | _ => false

def isFailed : ProofTree σ ρ → Bool
  | failed _ _ => true
  | _ => false

/-- Whether no branch fails. -/
def isProved : ProofTree σ ρ → Bool
  | closed _ _ => true
  | failed _ _ => false
  | single _ _ t => t.isProved
  | double _ _ t u => t.isProved && u.isProved

/-- Number of nodes on the longest branch. -/
def depth : ProofTree σ ρ → Nat
  | closed _ _ | failed _ _ => 1
  | single _ _ t => t.depth + 1
  | double _ _ t u => max t.depth u.depth + 1

/-- All nodes, each before its subtrees and these from left to right. -/
def walk : ProofTree σ ρ → List (ProofTree σ ρ)
  | closed s l => [closed s l]
  | failed s l => [failed s l]
  | single s l t => single s l t :: t.walk
  | double s l t u => double s l t u :: (t.walk ++ u.walk)

def size (t : ProofTree σ ρ) : Nat :=
  t.walk.length

/-- Closed and failed nodes from left to right. -/
def leaves (t : ProofTree σ ρ) : List (ProofTree σ ρ) :=
  t.walk.filter fun n => n.isClosed || n.isFailed

def failedSequents (t : ProofTree σ ρ) : List σ :=
  (t.walk.filter isFailed).map sequent

def map (f : σ → τ) (g : ρ → υ) : ProofTree σ ρ → ProofTree τ υ
  | closed s l => closed (f s) (g l)
  | failed s l => failed (f s) (g l)
  | single s l t => single (f s) (g l) (t.map f g)
  | double s l t u => double (f s) (g l) (t.map f g) (u.map f g)

/-- Replaces every sequent, each before those below it; the first failure ends the work. -/
def mapSequents {ε : Type} (f : σ → Except ε τ) : ProofTree σ ρ → Except ε (ProofTree τ ρ)
  | closed s l => (f s).map fun x => closed x l
  | failed s l => (f s).map fun x => failed x l
  | single s l t =>
    match f s with
    | .error e => .error e
    | .ok x => (t.mapSequents f).map (single x l)
  | double s l t u =>
    match f s with
    | .error e => .error e
    | .ok x =>
      match t.mapSequents f with
      | .error e => .error e
      | .ok y => (u.mapSequents f).map (double x l y)

/-- What may stand below a node: a subtree or the mark of a failure. -/
inductive Branch (σ ρ : Type) where
  | fail
  | tree (t : ProofTree σ ρ)
  deriving DecidableEq, Repr

namespace Branch

def map (f : σ → τ) (g : ρ → υ) : Branch σ ρ → Branch τ υ
  | fail => fail
  | tree t => tree (t.map f g)

/-- All nodes of a branch. The mark of a failure is none. -/
def walk : Branch σ ρ → List (ProofTree σ ρ)
  | fail => []
  | tree t => t.walk

end Branch

/-- Why things cannot stand below one node together. -/
inductive ShapeError where
  | tooMany (count : Nat)
  | strayFail
  deriving DecidableEq, Repr

def ShapeError.message : ShapeError → String
  | tooMany count => "Derivation node with " ++ toString count ++ " children"
  | strayFail => "A fail leaf must be the only child of its node"

/-- The node with the given things below it. A failure must stand alone. -/
def ofBranches (s : σ) (l : ρ) : List (Branch σ ρ) → Except ShapeError (ProofTree σ ρ)
  | [] => .ok (closed s l)
  | [.fail] => .ok (failed s l)
  | [.tree t] => .ok (single s l t)
  | [.tree t, .tree u] => .ok (double s l t u)
  | [_, _] => .error .strayFail
  | branches => .error (.tooMany branches.length)

/-- The things below a node. -/
def branches : ProofTree σ ρ → List (Branch σ ρ)
  | closed _ _ => []
  | failed _ _ => [.fail]
  | single _ _ t => [.tree t]
  | double _ _ t u => [.tree t, .tree u]

theorem ofBranches_branches (t : ProofTree σ ρ) :
    ofBranches t.sequent t.label t.branches = .ok t := by
  cases t <;> rfl

end ProofTree

end Turnstile

import Turnstile.Formula

/-! Sequents: two ordered lists of formulas. Order and multiplicity are kept,
because the calculus always works on the leftmost formula it can use. -/
namespace Turnstile

structure Sequent (α : Type := String) where
  left : List (Formula α)
  right : List (Formula α)
  deriving DecidableEq, Repr, Inhabited

/-- The two sides of a sequent. -/
inductive Side where
  | left
  | right
  deriving DecidableEq, Repr

def Side.name : Side → String
  | left => "left"
  | right => "right"

def Side.other : Side → Side
  | left => right
  | right => left

namespace Sequent

variable {α β : Type}

/-- The formulas of one side. -/
def formulas (s : Sequent α) : Side → List (Formula α)
  | .left => s.left
  | .right => s.right

def isEmpty (s : Sequent α) : Bool :=
  s.left.isEmpty && s.right.isEmpty

def connectives (s : Sequent α) : Nat :=
  Formula.totalConnectives s.left + Formula.totalConnectives s.right

/-- Names of all variables, left side first, with repetitions. -/
def names (s : Sequent α) : List α :=
  s.left.flatMap Formula.names ++ s.right.flatMap Formula.names

def rename (r : α → β) (s : Sequent α) : Sequent β :=
  ⟨s.left.map (·.rename r), s.right.map (·.rename r)⟩

/-- Every inference lowers this measure: a connective weighs more than the formula
that its removal may add, and closing a branch drops at least one formula. -/
def weight (s : Sequent α) : Nat :=
  2 * s.connectives + s.left.length + s.right.length

end Sequent

end Turnstile

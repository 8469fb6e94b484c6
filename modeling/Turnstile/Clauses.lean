import Turnstile.Sequent

/-! The clauses of a sequent: the sequents of variables that remain when all connectives are
taken apart and no branch is ever closed. They are given by recursion on the formulas, in no
particular order of work. -/
namespace Turnstile

/-- Names on the left and on the right. -/
structure Clause where
  left : List String
  right : List String
  deriving DecidableEq, Repr

namespace Clause

def empty : Clause :=
  ⟨[], []⟩

def single (side : Side) (name : String) : Clause :=
  match side with
  | .left => ⟨[name], []⟩
  | .right => ⟨[], [name]⟩

def join (c d : Clause) : Clause :=
  ⟨c.left ++ d.left, c.right ++ d.right⟩

/-- Every clause of one list with every clause of the other. -/
def combine (cs ds : List Clause) : List Clause :=
  cs.flatMap fun c => ds.map c.join

/-- Whether no name stands on both sides. -/
def isOpen (c : Clause) : Bool :=
  c.left.all fun n => !c.right.contains n

/-- A sequent of variables as a clause. -/
def ofSequent (s : Sequent) : Clause :=
  ⟨s.left.flatMap Formula.names, s.right.flatMap Formula.names⟩

end Clause

/-- The clauses of a formula that stands on a side. A conjunction on the left and a
disjunction on the right keep their parts together; otherwise the parts give clauses of
their own. -/
def Formula.clauses : Side → Formula → List Clause
  | side, var n => [.single side n]
  | side, neg a => a.clauses side.other
  | .left, conj a b => Clause.combine (a.clauses .left) (b.clauses .left)
  | .right, conj a b => a.clauses .right ++ b.clauses .right
  | .left, disj a b => a.clauses .left ++ b.clauses .left
  | .right, disj a b => Clause.combine (a.clauses .right) (b.clauses .right)

def Sequent.clauses (s : Sequent) : List Clause :=
  (s.left.map (Formula.clauses .left) ++ s.right.map (Formula.clauses .right)).foldr
    Clause.combine [Clause.empty]

end Turnstile

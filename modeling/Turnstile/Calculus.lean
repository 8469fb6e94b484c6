import Turnstile.Search

/-! The calculus as it is written on paper: where a rule applies, what it makes of a sequent, and
which step a node of a search takes. Everything is said of sequents and of finished nodes, and
nothing of how a search finds its way. -/
namespace Turnstile

namespace Sequent

/-- A sequent that is nothing but one variable on both sides. -/
def Initial (s : Sequent) : Prop :=
  ∃ v, s = ⟨[.var v], [.var v]⟩

/-- Some variable stands on both sides. -/
def Shares (s : Sequent) : Prop :=
  ∃ v, .var v ∈ s.left ∧ .var v ∈ s.right

/-- Only variables stand on either side. -/
def Flat (s : Sequent) : Prop :=
  ∀ side, ∀ a ∈ s.formulas side, ∃ v, a = .var v

/-- The leftmost variable on the left that stands on the right too. -/
def LeftmostShared (s : Sequent) (v : String) : Prop :=
  ∃ before after, s.left = before ++ .var v :: after ∧ .var v ∈ s.right ∧
    ∀ w, .var w ∈ before → .var w ∉ s.right

end Sequent

namespace Rule

/-- Whether a rule has something to work on. -/
def Applies (s : Sequent) : Rule → Prop
  | closing => s.Shares
  | leftUnfold => ∃ a ∈ s.left, a.kind = .neg ∨ a.kind = .conj
  | rightUnfold => ∃ a ∈ s.right, a.kind = .neg ∨ a.kind = .disj
  | leftBranch => ∃ a ∈ s.left, a.kind = .disj
  | rightBranch => ∃ a ∈ s.right, a.kind = .conj

/-- The rules that take a formula apart, each with its premises. The formula is the leftmost that
the rule can work on. -/
inductive Decomposes : Rule → Sequent → List Sequent → Prop where
  | negLeft {before after right : List Formula} {a : Formula} :
      (∀ b ∈ before, b.kind ≠ .neg ∧ b.kind ≠ .conj) →
        Decomposes leftUnfold ⟨before ++ .neg a :: after, right⟩ [⟨before ++ after, right ++ [a]⟩]
  | conjLeft {before after right : List Formula} {a b : Formula} :
      (∀ c ∈ before, c.kind ≠ .neg ∧ c.kind ≠ .conj) →
        Decomposes leftUnfold ⟨before ++ .conj a b :: after, right⟩
          [⟨before ++ a :: b :: after, right⟩]
  | negRight {left before after : List Formula} {a : Formula} :
      (∀ b ∈ before, b.kind ≠ .neg ∧ b.kind ≠ .disj) →
        Decomposes rightUnfold ⟨left, before ++ .neg a :: after⟩ [⟨left ++ [a], before ++ after⟩]
  | disjRight {left before after : List Formula} {a b : Formula} :
      (∀ c ∈ before, c.kind ≠ .neg ∧ c.kind ≠ .disj) →
        Decomposes rightUnfold ⟨left, before ++ .disj a b :: after⟩
          [⟨left, before ++ a :: b :: after⟩]
  | disjLeft {before after right : List Formula} {a b : Formula} :
      (∀ c ∈ before, c.kind ≠ .disj) →
        Decomposes leftBranch ⟨before ++ .disj a b :: after, right⟩
          [⟨before ++ a :: after, right⟩, ⟨before ++ b :: after, right⟩]
  | conjRight {left before after : List Formula} {a b : Formula} :
      (∀ c ∈ before, c.kind ≠ .conj) →
        Decomposes rightBranch ⟨left, before ++ .conj a b :: after⟩
          [⟨left, before ++ a :: after⟩, ⟨left, before ++ b :: after⟩]

/-- The rules that take a formula apart, in the order in which they are tried. -/
def decomposing : List Rule :=
  [leftUnfold, rightUnfold, leftBranch, rightBranch]

/-- The first rule of a list that has something to work on. -/
def FirstApplying (rules : List Rule) (s : Sequent) (rule : Rule) : Prop :=
  ∃ earlier later, rules = earlier ++ rule :: later ∧ rule.Applies s ∧
    ∀ other ∈ earlier, ¬other.Applies s

end Rule

namespace Derivation

/-- The steps that a search can take at a node. -/
inductive StepKind where
  | initial
  | reduction
  | decomposition
  | failure
  deriving DecidableEq, Repr

/-- What a node looks like at which a step of some kind was taken. -/
def Takes (n : Derivation) : StepKind → Prop
  | .initial => n.sequent.Initial ∧ n.label = some "axiom" ∧ n.branches = []
  | .reduction =>
    ¬n.sequent.Initial ∧ n.label = some "axiom" ∧
      ∃ v child, n.sequent.LeftmostShared v ∧ n.branches = [.tree child] ∧
        child.sequent = ⟨[.var v], [.var v]⟩ ∧ child.branches = []
  | .decomposition =>
    ¬n.sequent.Shares ∧
      ∃ rule premises, Rule.FirstApplying Rule.decomposing n.sequent rule ∧
        n.label = some rule.name ∧ rule.Decomposes n.sequent premises ∧
          ∃ below : List Derivation, n.branches = below.map .tree ∧
            below.map (·.sequent) = premises
  | .failure =>
    n.sequent.Flat ∧ ¬n.sequent.Shares ∧ n.label = some "fail" ∧ n.branches = [.fail]

end Derivation

end Turnstile

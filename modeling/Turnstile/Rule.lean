import Turnstile.Sequent

/-! The rules of the calculus, read from the conclusion to the premises. Each rule works
on the leftmost formula that it can use. -/
namespace Turnstile

inductive Rule where
  | closing
  | leftUnfold
  | rightUnfold
  | leftBranch
  | rightBranch
  deriving DecidableEq, Repr

/-- What variables are called by. Some names on the left and the right meet, and then they
close a sequent. -/
class Name (α : Type) where
  meets : α → α → Bool

/-- Texts meet if they are equal. -/
instance : Name String where
  meets a b := a == b

/-- What an inference works on: variables of both sides that meet, or one formula. -/
inductive Principal (α : Type := String) where
  | shared (name : α) (leftIndex rightIndex : Nat)
  | formula (side : Side) (index : Nat) (kind : Formula.Kind)
  deriving DecidableEq, Repr

inductive Premises (α : Type := String) where
  | none
  | one (premise : Sequent α)
  | two (first second : Sequent α)
  deriving DecidableEq, Repr

def Premises.toList {α : Type} : Premises α → List (Sequent α)
  | none => []
  | one p => [p]
  | two p q => [p, q]

structure Inference (α : Type := String) where
  rule : Rule
  premises : Premises α
  principal : Principal α
  deriving DecidableEq, Repr

/-- Two variables that meet, with the place of each on its side. -/
structure SharedVariable (α : Type := String) where
  left : α
  right : α
  leftIndex : Nat
  rightIndex : Nat
  deriving DecidableEq, Repr

variable {α : Type}

/-- The first variable on the right that meets a name. -/
def Formula.meeting? [Name α] (name : α) (side : List (Formula α)) : Option (α × Nat) :=
  side.zipIdx.findSome? fun
    | (.var other, i) => if Name.meets name other then some (other, i) else none
    | _ => none

/-- The leftmost left variable that meets one on the right, with the first that it meets. -/
def Sequent.shared? [Name α] (s : Sequent α) : Option (SharedVariable α) :=
  s.left.zipIdx.findSome? fun
    | (.var name, i) => (Formula.meeting? name s.right).map fun (other, j) => ⟨name, other, i, j⟩
    | _ => none

namespace Rule

def name : Rule → String
  | closing => "axiom"
  | leftUnfold => "left_unfold"
  | rightUnfold => "right_unfold"
  | leftBranch => "left_branch"
  | rightBranch => "right_branch"

/-- All rules in the order in which they are tried by default. -/
def priority : List Rule :=
  [closing, leftUnfold, rightUnfold, leftBranch, rightBranch]

/-- Closes a sequent with variables `v` and `w` that meet: it is reduced to `v ⊦ w`, unless it
has that form already. -/
def closingPremises (s : Sequent α) (v w : α) : Premises α :=
  match s.left, s.right with
  | [_], [_] => .none
  | _, _ => .one ⟨[.var v], [.var w]⟩

/-- The premises for a formula on the left. A negated formula goes to the end of the
other side; the parts of any other take the place of the whole. -/
def leftPremises (p : Formula.Place α) (right : List (Formula α)) : Premises α :=
  match p.formula with
  | .var _ => .none
  | .neg a => .one ⟨p.put [], right ++ [a]⟩
  | .conj a b => .one ⟨p.put [a, b], right⟩
  | .disj a b => .two ⟨p.put [a], right⟩ ⟨p.put [b], right⟩

def rightPremises (left : List (Formula α)) (p : Formula.Place α) : Premises α :=
  match p.formula with
  | .var _ => .none
  | .neg a => .one ⟨left ++ [a], p.put []⟩
  | .disj a b => .one ⟨left, p.put [a, b]⟩
  | .conj a b => .two ⟨left, p.put [a]⟩ ⟨left, p.put [b]⟩

def inferLeft? (rule : Rule) (kinds : List Formula.Kind) (s : Sequent α) :
    Option (Inference α) :=
  (Formula.Place.first? kinds s.left).map fun p =>
    ⟨rule, leftPremises p s.right, .formula .left p.index p.formula.kind⟩

def inferRight? (rule : Rule) (kinds : List Formula.Kind) (s : Sequent α) :
    Option (Inference α) :=
  (Formula.Place.first? kinds s.right).map fun p =>
    ⟨rule, rightPremises s.left p, .formula .right p.index p.formula.kind⟩

def infer? [Name α] (rule : Rule) (s : Sequent α) : Option (Inference α) :=
  match rule with
  | closing =>
    s.shared?.map fun v =>
      ⟨closing, closingPremises s v.left v.right, .shared v.left v.leftIndex v.rightIndex⟩
  | leftUnfold => inferLeft? leftUnfold [.neg, .conj] s
  | rightUnfold => inferRight? rightUnfold [.neg, .disj] s
  | leftBranch => inferLeft? leftBranch [.disj] s
  | rightBranch => inferRight? rightBranch [.conj] s

/-- The inference of the first rule in the list that applies. -/
def firstInference? [Name α] (rules : List Rule) (s : Sequent α) : Option (Inference α) :=
  rules.findSome? (·.infer? s)

theorem meeting?_eq_some [Name α] {name other : α} {side : List (Formula α)} {i : Nat}
    (found : Formula.meeting? name side = some (other, i)) :
    .var other ∈ side ∧ Name.meets name other := by
  obtain ⟨⟨a, k⟩, member, hit⟩ := List.exists_of_findSome?_eq_some found
  have inside : a ∈ side := (List.mem_zipIdx' member).2 ▸ List.getElem_mem _
  cases a with
  | var n =>
    simp only at hit
    split at hit
    · cases hit
      exact ⟨inside, by assumption⟩
    · cases hit
  | _ => cases hit

theorem shared?_sides [Name α] {s : Sequent α} {v : SharedVariable α} (found : s.shared? = some v) :
    .var v.left ∈ s.left ∧ .var v.right ∈ s.right ∧ Name.meets v.left v.right := by
  obtain ⟨⟨a, i⟩, member, hit⟩ := List.exists_of_findSome?_eq_some found
  have inside : a ∈ s.left := (List.mem_zipIdx' member).2 ▸ List.getElem_mem _
  cases a with
  | var n =>
    obtain ⟨⟨other, j⟩, met, rfl⟩ := Option.map_eq_some_iff.mp hit
    exact ⟨inside, meeting?_eq_some met⟩
  | _ => cases hit

theorem closingPremises_weight {s p : Sequent α} {v w : α} (left : .var v ∈ s.left)
    (right : .var w ∈ s.right) (premise : p ∈ (closingPremises s v w).toList) :
    p.weight < s.weight := by
  obtain ⟨leftSide, rightSide⟩ := s
  unfold closingPremises at premise
  split at premise
  · simp [Premises.toList] at premise
  · rename_i shape
    simp only [Premises.toList, List.mem_singleton] at premise
    subst premise
    match leftSide, rightSide, left, right, shape with
    | [_], [_], _, _, shape => exact absurd rfl (shape _ _ rfl)
    | _ :: _ :: _, _ :: _, _, _, _ =>
      simp [Sequent.weight, Sequent.connectives, Formula.totalConnectives, Formula.connectives]
      omega
    | [_], _ :: _ :: _, _, _, _ =>
      simp [Sequent.weight, Sequent.connectives, Formula.totalConnectives, Formula.connectives]
      omega

theorem leftPremises_weight {s p : Sequent α} {place : Formula.Place α}
    (parts : s.left = place.before ++ place.formula :: place.after)
    (premise : p ∈ (leftPremises place s.right).toList) : p.weight < s.weight := by
  obtain ⟨before, formula, after⟩ := place
  simp only at parts
  cases formula <;>
    simp only [leftPremises, Premises.toList, Formula.Place.put, List.not_mem_nil,
      List.mem_cons, or_false] at premise
  case disj a b =>
    rcases premise with rfl | rfl <;>
      simp only [Sequent.weight, Sequent.connectives, Formula.connectives, parts,
        Formula.totalConnectives_append, Formula.totalConnectives,
        List.length_append, List.length_cons, List.length_nil] <;> omega
  all_goals
    subst premise
    simp [Sequent.weight, Sequent.connectives, Formula.totalConnectives, Formula.connectives,
      parts]
    omega

theorem rightPremises_weight {s p : Sequent α} {place : Formula.Place α}
    (parts : s.right = place.before ++ place.formula :: place.after)
    (premise : p ∈ (rightPremises s.left place).toList) : p.weight < s.weight := by
  obtain ⟨before, formula, after⟩ := place
  simp only at parts
  cases formula <;>
    simp only [rightPremises, Premises.toList, Formula.Place.put, List.not_mem_nil,
      List.mem_cons, or_false] at premise
  case conj a b =>
    rcases premise with rfl | rfl <;>
      simp only [Sequent.weight, Sequent.connectives, Formula.connectives, parts,
        Formula.totalConnectives_append, Formula.totalConnectives,
        List.length_append, List.length_cons, List.length_nil] <;> omega
  all_goals
    subst premise
    simp [Sequent.weight, Sequent.connectives, Formula.totalConnectives, Formula.connectives,
      parts]
    omega

/-- Every premise weighs less than the conclusion. -/
theorem infer?_weight [Name α] {rule : Rule} {s p : Sequent α} {i : Inference α}
    (inferred : rule.infer? s = some i) (premise : p ∈ i.premises.toList) :
    p.weight < s.weight := by
  cases rule with
  | closing =>
    obtain ⟨v, found, rfl⟩ := Option.map_eq_some_iff.mp inferred
    obtain ⟨left, right, _⟩ := shared?_sides found
    exact closingPremises_weight left right premise
  | leftUnfold | leftBranch =>
    obtain ⟨place, found, rfl⟩ := Option.map_eq_some_iff.mp inferred
    exact leftPremises_weight (Formula.Place.first?_eq_some found).1 premise
  | rightUnfold | rightBranch =>
    obtain ⟨place, found, rfl⟩ := Option.map_eq_some_iff.mp inferred
    exact rightPremises_weight (Formula.Place.first?_eq_some found).1 premise

theorem firstInference?_weight [Name α] {rules : List Rule} {s p : Sequent α}
    {i : Inference α} (inferred : firstInference? rules s = some i)
    (premise : p ∈ i.premises.toList) : p.weight < s.weight := by
  obtain ⟨rule, _, hit⟩ := List.exists_of_findSome?_eq_some inferred
  exact infer?_weight hit premise

end Rule

end Turnstile

import Mathlib.Algebra.Ring.Nat
import Turnstile.Proofs.Priority

/-! How far a search can go. Taking a formula apart removes a connective from every premise. Closing
need not remove any, but what it leaves is a pair of variables, with which no rule can go on. So a
branch is at most two nodes longer than there are connectives in its root, and the tree at most
doubles with each of them. -/
namespace Turnstile

namespace ProofTree

variable {σ ρ : Type}

@[simp]
theorem size_closed (s : σ) (l : ρ) : (closed s l).size = 1 := rfl

@[simp]
theorem size_failed (s : σ) (l : ρ) : (failed s l).size = 1 := rfl

@[simp]
theorem size_single (s : σ) (l : ρ) (t : ProofTree σ ρ) : (single s l t).size = t.size + 1 := rfl

@[simp]
theorem size_double (s : σ) (l : ρ) (t u : ProofTree σ ρ) :
    (double s l t u).size = t.size + u.size + 1 := by
  simp [size, walk]

end ProofTree

namespace Sequent

variable {α : Type}

theorem totalConnectives_put (p : Formula.Place α) (others : List (Formula α)) :
    Formula.totalConnectives (p.put others) =
      Formula.totalConnectives (p.put []) + Formula.totalConnectives others := by
  simp only [Formula.Place.put, Formula.totalConnectives_append, Formula.totalConnectives]
  omega

theorem kind_of_singleton {v : α} {p : Formula.Place α} (parts : [.var v] = p.put [p.formula]) :
    p.formula.kind = .var := by
  have member : p.formula ∈ p.put [p.formula] := by simp [Formula.Place.put]
  rw [← parts] at member
  rw [List.mem_singleton.mp member, Formula.kind]

theorem leftPremises_connectives {s p : Sequent α} {place : Formula.Place α}
    (parts : s.left = place.put [place.formula])
    (premise : p ∈ (Rule.leftPremises place s.right).toList) : p.connectives < s.connectives := by
  rw [connectives, connectives, parts, totalConnectives_put place [place.formula]]
  obtain ⟨before, formula, after⟩ := place
  cases formula with
  | var v => cases premise
  | neg a =>
    obtain rfl := List.mem_singleton.mp premise
    simp only [Formula.totalConnectives_append, Formula.totalConnectives, Formula.connectives]
    omega
  | conj a b =>
    obtain rfl := List.mem_singleton.mp premise
    simp only [totalConnectives_put _ [a, b], Formula.totalConnectives, Formula.connectives]
    omega
  | disj a b =>
    simp only [Rule.leftPremises, Premises.toList, List.mem_cons, List.not_mem_nil,
      or_false] at premise
    rcases premise with rfl | rfl
    · simp only [totalConnectives_put _ [a], Formula.totalConnectives, Formula.connectives]
      omega
    · simp only [totalConnectives_put _ [b], Formula.totalConnectives, Formula.connectives]
      omega

theorem rightPremises_connectives {s p : Sequent α} {place : Formula.Place α}
    (parts : s.right = place.put [place.formula])
    (premise : p ∈ (Rule.rightPremises s.left place).toList) : p.connectives < s.connectives := by
  rw [connectives, connectives, parts, totalConnectives_put place [place.formula]]
  obtain ⟨before, formula, after⟩ := place
  cases formula with
  | var v => cases premise
  | neg a =>
    obtain rfl := List.mem_singleton.mp premise
    simp only [Formula.totalConnectives_append, Formula.totalConnectives, Formula.connectives]
    omega
  | disj a b =>
    obtain rfl := List.mem_singleton.mp premise
    simp only [totalConnectives_put _ [a, b], Formula.totalConnectives, Formula.connectives]
    omega
  | conj a b =>
    simp only [Rule.rightPremises, Premises.toList, List.mem_cons, List.not_mem_nil,
      or_false] at premise
    rcases premise with rfl | rfl
    · simp only [totalConnectives_put _ [a], Formula.totalConnectives, Formula.connectives]
      omega
    · simp only [totalConnectives_put _ [b], Formula.totalConnectives, Formula.connectives]
      omega

variable [Name α]

/-- A step leaves fewer connectives in every premise, unless it closes the sequent. -/
theorem Reduces.connectives_lt {s : Sequent α} {premises : Premises α} (step : s.Reduces premises) :
    (∃ v w, premises = .one ⟨[.var v], [.var w]⟩) ∨
      ∀ p ∈ premises.toList, p.connectives < s.connectives := by
  cases step with
  | @closing v w =>
    unfold Rule.closingPremises
    split
    · exact .inr (by simp [Premises.toList])
    · exact .inl ⟨v, w, rfl⟩
  | left parts =>
    right
    intro p premise
    exact leftPremises_connectives parts premise
  | right parts =>
    right
    intro p premise
    exact rightPremises_connectives parts premise

/-- From two variables that face each other no step leads on. -/
theorem Reduces.none_of_pair {v w : α} {premises : Premises α}
    (step : (Sequent.mk [.var v] [.var w]).Reduces premises) : premises = .none := by
  cases step with
  | closing => rfl
  | left parts compound => exact (compound (kind_of_singleton parts)).elim
  | right parts compound => exact (compound (kind_of_singleton parts)).elim

theorem derive_pair (rules : List Rule) (v w : α) :
    ((Sequent.mk [.var v] [.var w]).derive rules).depth = 1 ∧
      ((Sequent.mk [.var v] [.var w]).derive rules).size = 1 := by
  fun_cases derive rules (Sequent.mk [.var v] [.var w]) with
  | case1 => exact ⟨rfl, rfl⟩
  | case2 => exact ⟨rfl, rfl⟩
  | case3 rule p principal inferred => cases (Rule.firstInference?_reduces inferred).none_of_pair
  | case4 rule p q principal inferred => cases (Rule.firstInference?_reduces inferred).none_of_pair

/-- The bounds of a tree, by induction on the search. They hold below a closing step because nothing
follows the pair that it leaves, and below any other because connectives were removed. -/
theorem derive_extent (rules : List Rule) (s : Sequent α) :
    (s.derive rules).depth ≤ s.connectives + 2 ∧
      (s.derive rules).size < 3 * 2 ^ s.connectives := by
  fun_induction derive rules s with
  | case1 s stuck =>
    have positive := Nat.two_pow_pos s.connectives
    simp only [ProofTree.depth, ProofTree.size_failed]
    omega
  | case2 s rule principal inferred =>
    have positive := Nat.two_pow_pos s.connectives
    simp only [ProofTree.depth, ProofTree.size_closed]
    omega
  | case3 s rule p principal inferred ih =>
    simp only [ProofTree.depth, ProofTree.size_single]
    rcases (Rule.firstInference?_reduces inferred).connectives_lt with ⟨v, w, same⟩ | fewer
    · obtain rfl := Premises.one.inj same
      have positive := Nat.two_pow_pos s.connectives
      obtain ⟨depth, size⟩ := derive_pair rules v w
      omega
    · have less := fewer p (by simp [Premises.toList])
      have doubled : 2 ^ (p.connectives + 1) ≤ 2 ^ s.connectives :=
        Nat.pow_le_pow_right (by decide) less
      have positive := Nat.two_pow_pos p.connectives
      omega
  | case4 s rule p q principal inferred first second =>
    simp only [ProofTree.depth, ProofTree.size_double]
    rcases (Rule.firstInference?_reduces inferred).connectives_lt with ⟨v, w, same⟩ | fewer
    · cases same
    · have lessFirst := fewer p (by simp [Premises.toList])
      have lessSecond := fewer q (by simp [Premises.toList])
      have doubledFirst : 2 ^ (p.connectives + 1) ≤ 2 ^ s.connectives :=
        Nat.pow_le_pow_right (by decide) lessFirst
      have doubledSecond : 2 ^ (q.connectives + 1) ≤ 2 ^ s.connectives :=
        Nat.pow_le_pow_right (by decide) lessSecond
      omega

/-- A search goes on from a sequent with the premises of its first inference. -/
def Leads (rules : List Rule) (p s : Sequent α) : Prop :=
  ∃ i, Rule.firstInference? rules s = some i ∧ p ∈ i.premises.toList

/-- What stands below a node are the searches that it leads to. -/
theorem mem_branches_derive_iff {rules : List Rule} {s : Sequent α} {below : Derivation α} :
    .tree below ∈ (s.derive rules).branches ↔ ∃ p, Leads rules p s ∧ below = p.derive rules := by
  cases found : Rule.firstInference? rules s with
  | none => simp [derive_of_stuck found, ProofTree.branches, Leads, found]
  | some i =>
    rw [(derive_of_inference found).2.2]
    simp [Leads, found, eq_comm]

theorem wellFounded_leads (rules : List Rule) : WellFounded (Leads (α := α) rules) := by
  apply Subrelation.wf ?_ (InvImage.wf weight Nat.lt_wfRel.wf)
  rintro p s ⟨i, inferred, premise⟩
  exact Rule.firstInference?_weight inferred premise

/-- Whichever rules it has, a search does not go on forever from any sequent. It returns a tree; no
branch of the tree is longer by more than two nodes than the sequent has connectives, and the number
of nodes stays below three times two to the power of that number. -/
theorem derive_bounded (rules : List Rule) :
    WellFounded (Leads (α := String) rules) ∧
      ∀ s : Sequent,
        (∀ below, .tree below ∈ (s.derive rules).branches ↔
          ∃ p, Leads rules p s ∧ below = p.derive rules) ∧
        s.guardedDerive rules = .ok (s.derive rules) ∧
        (s.derive rules).depth ≤ s.connectives + 2 ∧
        (s.derive rules).size ≤ 3 * 2 ^ s.connectives - 1 := by
  refine ⟨wellFounded_leads rules, fun s => ?_⟩
  obtain ⟨depth, size⟩ := derive_extent rules s
  exact ⟨fun _ => mem_branches_derive_iff, guardedDerive_eq rules s, depth,
    Nat.le_sub_one_of_lt size⟩

/-- Closing `A, A ⊦ A` removes no connective, and meets both bounds. -/
example : ((Sequent.mk [.var "A", .var "A"] [.var "A"]).derive [.closing]).depth = 2 ∧
    ((Sequent.mk [.var "A", .var "A"] [.var "A"]).derive [.closing]).size = 2 := by decide +kernel

end Sequent

end Turnstile

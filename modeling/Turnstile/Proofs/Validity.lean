import Turnstile.Proofs.Derivation
import Turnstile.Semantics

/-! Search and truth. Every inference keeps the valuations that refute a sequent: one refutes
the conclusion if and only if it refutes a premise. Hence the failed sequents of a search have
together the countermodels of its root, for any rules in any order, and a search with all rules
decides validity. -/
namespace Turnstile

theorem Formula.Place.forall_mem_put {holds : Formula → Prop} (p : Formula.Place)
    (others : List Formula) :
    (∀ a ∈ p.put others, holds a) ↔ (∀ a ∈ p.put [], holds a) ∧ ∀ a ∈ others, holds a := by
  simp only [put, List.mem_append, List.append_nil, or_imp, forall_and]
  exact and_right_comm

namespace Sequent

variable {left right : List Formula} {v : Valuation}

theorem refutedBy_put_left (p : Formula.Place) (others : List Formula) :
    (Sequent.mk (p.put others) right).RefutedBy v ↔
      (Sequent.mk (p.put []) right).RefutedBy v ∧ ∀ a ∈ others, a.holds v = true := by
  rw [RefutedBy, RefutedBy, p.forall_mem_put others]
  exact and_right_comm

theorem refutedBy_put_right (p : Formula.Place) (others : List Formula) :
    (Sequent.mk left (p.put others)).RefutedBy v ↔
      (Sequent.mk left (p.put [])).RefutedBy v ∧ ∀ a ∈ others, a.holds v = false := by
  rw [RefutedBy, RefutedBy, p.forall_mem_put others]
  exact and_assoc.symm

theorem refutedBy_append_left (a : Formula) :
    (Sequent.mk (left ++ [a]) right).RefutedBy v ↔
      (Sequent.mk left right).RefutedBy v ∧ a.holds v = true := by
  simpa [Formula.Place.put] using refutedBy_put_left ⟨left, a, []⟩ [a]

theorem refutedBy_append_right (a : Formula) :
    (Sequent.mk left (right ++ [a])).RefutedBy v ↔
      (Sequent.mk left right).RefutedBy v ∧ a.holds v = false := by
  simpa [Formula.Place.put] using refutedBy_put_right ⟨right, a, []⟩ [a]

theorem not_refutedBy_of_shared {s : Sequent} {n : String} (left : .var n ∈ s.left)
    (right : .var n ∈ s.right) : ¬s.RefutedBy v := by
  rintro ⟨holdsLeft, failsRight⟩
  have holds := holdsLeft _ left
  rw [failsRight _ right] at holds
  cases holds

theorem leftPremises_refutedBy (p : Formula.Place) (compound : p.formula.kind ≠ .var) :
    (Sequent.mk (p.put [p.formula]) right).RefutedBy v ↔
      ∃ q ∈ (Rule.leftPremises p right).toList, q.RefutedBy v := by
  obtain ⟨before, formula, after⟩ := p
  rw [refutedBy_put_left]
  cases formula with
  | var n => simp [Formula.kind] at compound
  | neg a => simp [Rule.leftPremises, Premises.toList, refutedBy_append_right, Formula.holds]
  | conj a b =>
    simp [Rule.leftPremises, Premises.toList, refutedBy_put_left _ [a, b], Formula.holds]
  | disj a b =>
    simp [Rule.leftPremises, Premises.toList, refutedBy_put_left _ [a], refutedBy_put_left _ [b],
      Formula.holds, and_or_left]

theorem rightPremises_refutedBy (p : Formula.Place) (compound : p.formula.kind ≠ .var) :
    (Sequent.mk left (p.put [p.formula])).RefutedBy v ↔
      ∃ q ∈ (Rule.rightPremises left p).toList, q.RefutedBy v := by
  obtain ⟨before, formula, after⟩ := p
  rw [refutedBy_put_right]
  cases formula with
  | var n => simp [Formula.kind] at compound
  | neg a => simp [Rule.rightPremises, Premises.toList, refutedBy_append_left, Formula.holds]
  | disj a b =>
    simp [Rule.rightPremises, Premises.toList, refutedBy_put_right _ [a, b], Formula.holds]
  | conj a b =>
    simp [Rule.rightPremises, Premises.toList, refutedBy_put_right _ [a],
      refutedBy_put_right _ [b], Formula.holds, and_or_left, Bool.and_eq_false_iff,
      -Bool.and_eq_false_imp]

/-- Closing drops the rest of the sequent, which is harmless because neither the sequent nor
what it is reduced to can be refuted. -/
theorem closingPremises_refutedBy {s : Sequent} {n : String} (left : .var n ∈ s.left)
    (right : .var n ∈ s.right) :
    s.RefutedBy v ↔ ∃ q ∈ (Rule.closingPremises s n n).toList, q.RefutedBy v := by
  have never : ¬∃ q ∈ (Rule.closingPremises s n n).toList, q.RefutedBy v := by
    rintro ⟨q, member, refuted⟩
    unfold Rule.closingPremises at member
    split at member
    · simp [Premises.toList] at member
    · obtain rfl := List.mem_singleton.mp member
      exact not_refutedBy_of_shared (n := n) (by simp) (by simp) refuted
  exact ⟨fun refuted => (not_refutedBy_of_shared left right refuted).elim,
    fun refuted => (never refuted).elim⟩

theorem Reduces.refutedBy_iff {s : Sequent} {premises : Premises} (step : s.Reduces premises) :
    s.RefutedBy v ↔ ∃ q ∈ premises.toList, q.RefutedBy v := by
  obtain ⟨left, right⟩ := s
  cases step with
  | @closing n m leftMember rightMember met =>
    obtain rfl : n = m := by simpa [Name.meets] using met
    exact closingPremises_refutedBy leftMember rightMember
  | @left p parts compound =>
    simp only at parts
    exact parts ▸ leftPremises_refutedBy p compound
  | @right p parts compound =>
    simp only at parts
    exact parts ▸ rightPremises_refutedBy p compound

/-- No countermodel is lost or gained on the way from the root to the failed branches. -/
theorem refutedBy_iff_failedSequents (rules : List Rule) (s : Sequent) :
    s.RefutedBy v ↔ ∃ f ∈ (s.derive rules).failedSequents, f.RefutedBy v := by
  fun_induction derive rules s with
  | case1 s stuck => simp
  | case2 s rule principal inferred =>
    have step := (Rule.firstInference?_reduces inferred).refutedBy_iff (v := v)
    simpa [Premises.toList] using step
  | case3 s rule p principal inferred ih =>
    have step := (Rule.firstInference?_reduces inferred).refutedBy_iff (v := v)
    simpa [Premises.toList, ih] using step
  | case4 s rule p q principal inferred first second =>
    have step := (Rule.firstInference?_reduces inferred).refutedBy_iff (v := v)
    simpa [Premises.toList, first, second, or_and_right, exists_or] using step

theorem Open.refutedBy_iff {s : Sequent} (isOpen : s.Open) :
    s.RefutedBy v ↔
      (∀ n, .var n ∈ s.left → v n = true) ∧ ∀ n, .var n ∈ s.right → v n = false := by
  constructor
  · rintro ⟨holdsLeft, failsRight⟩
    exact ⟨fun n member => holdsLeft _ member, fun n member => failsRight _ member⟩
  · rintro ⟨trueLeft, falseRight⟩
    constructor
    · intro a member
      obtain ⟨n, rfl⟩ := isOpen.left a member
      exact trueLeft n member
    · intro a member
      obtain ⟨n, rfl⟩ := isOpen.right a member
      exact falseRight n member

/-- Just the variables on the left are true. -/
def leftModel (s : Sequent) : Valuation :=
  fun n => decide (.var n ∈ s.left)

theorem Open.refutedBy_leftModel {s : Sequent} (isOpen : s.Open) : s.RefutedBy s.leftModel := by
  refine isOpen.refutedBy_iff.mpr ⟨fun n member => decide_eq_true member, fun n right => ?_⟩
  refine decide_eq_false fun left => ?_
  have apart := isOpen.apart n n left right
  simp [Name.meets] at apart

theorem open_of_mem_failedSequents {rules : List Rule} {s f : Sequent}
    (all : ∀ rule : Rule, rule ∈ rules) (failed : f ∈ (s.derive rules).failedSequents) : f.Open :=
  open_of_firstInference?_eq_none all (firstInference?_eq_none_of_failed failed)

theorem valid_of_isProved {rules : List Rule} {s : Sequent}
    (proved : (s.derive rules).isProved = true) : s.Valid := by
  refine (valid_iff_not_refutedBy s).mpr fun v refuted => ?_
  obtain ⟨f, failed, _⟩ := (refutedBy_iff_failedSequents rules s).mp refuted
  simp [(ProofTree.isProved_iff_failedSequents _).mp proved] at failed

theorem isProved_of_valid {rules : List Rule} {s : Sequent}
    (all : ∀ rule : Rule, rule ∈ rules) (valid : s.Valid) :
    (s.derive rules).isProved = true := by
  refine (ProofTree.isProved_iff_failedSequents _).mpr (List.eq_nil_iff_forall_not_mem.mpr ?_)
  intro f failed
  have refuted := (open_of_mem_failedSequents all failed).refutedBy_leftModel
  exact (valid_iff_not_refutedBy s).mp valid _
    ((refutedBy_iff_failedSequents rules s).mpr ⟨f, failed, refuted⟩)

theorem isProved_iff_valid {rules : List Rule} {s : Sequent} (all : ∀ rule : Rule, rule ∈ rules) :
    (s.derive rules).isProved = true ↔ s.Valid :=
  ⟨valid_of_isProved, isProved_of_valid all⟩

end Sequent

theorem Rule.mem_priority (rule : Rule) : rule ∈ priority := by
  cases rule <;> decide

namespace Sequent

instance (s : Sequent) : Decidable s.Valid :=
  decidable_of_iff _ (isProved_iff_valid Rule.mem_priority)

/-- Any rules prove only valid sequents, and all rules together prove all of them, in
whichever order and however often they are listed. -/
theorem derive_decides_valid (s : Sequent) (rules others : List Rule) :
    ((s.derive rules).isProved = true → s.Valid) ∧
      ((∀ rule : Rule, rule ∈ rules) → s.Valid → (s.derive rules).isProved = true) ∧
      ((s.derive Rule.priority).isProved = true ↔ s.Valid) ∧
      ((∀ rule : Rule, rule ∈ rules) → (∀ rule : Rule, rule ∈ others) →
        (s.derive rules).isProved = (s.derive others).isProved) := by
  refine ⟨valid_of_isProved, isProved_of_valid, isProved_iff_valid Rule.mem_priority, ?_⟩
  intro all allOthers
  exact Bool.eq_iff_iff.mpr ((isProved_iff_valid all).trans (isProved_iff_valid allOthers).symm)

/-- Disjunctive syllogism, with the rules in another order and one of them twice. -/
theorem disjunctiveSyllogism_isProved :
    (∀ rule : Rule, rule ∈ [Rule.rightBranch, .leftBranch, .closing, .rightUnfold, .leftUnfold,
      .closing]) ∧
    (Sequent.mk [.disj (.var "A") (.var "B"), .neg (.var "A")] [.var "B"]).Valid ∧
    ((Sequent.mk [.disj (.var "A") (.var "B"), .neg (.var "A")] [.var "B"]).derive
      [.rightBranch, .leftBranch, .closing, .rightUnfold, .leftUnfold, .closing]).isProved = true := by
  have all : ∀ rule : Rule, rule ∈ [Rule.rightBranch, .leftBranch, .closing, .rightUnfold,
      .leftUnfold, .closing] := by
    intro rule
    cases rule <;> decide
  have valid := (derive_decides_valid ⟨[.disj (.var "A") (.var "B"), .neg (.var "A")], [.var "B"]⟩
    Rule.priority []).1 (by cbv)
  exact ⟨all, valid, (derive_decides_valid _ _ []).2.1 all valid⟩

/-- The failed sequents are open, and a valuation refutes the root if and only if it makes the
left variables of one of them true and its right variables false. -/
theorem failedSequents_countermodels (s : Sequent) :
    (∀ f ∈ (s.derive Rule.priority).failedSequents,
      (∀ a ∈ f.left, ∃ n, a = .var n) ∧ (∀ a ∈ f.right, ∃ n, a = .var n) ∧
        ∀ n, .var n ∈ f.left → .var n ∉ f.right) ∧
      ∀ v, s.RefutedBy v ↔ ∃ f ∈ (s.derive Rule.priority).failedSequents,
        (∀ n, .var n ∈ f.left → v n = true) ∧ ∀ n, .var n ∈ f.right → v n = false := by
  have isOpen : ∀ f ∈ (s.derive Rule.priority).failedSequents, f.Open := fun f failed =>
    open_of_mem_failedSequents Rule.mem_priority failed
  constructor
  · intro f failed
    refine ⟨(isOpen f failed).left, (isOpen f failed).right, fun n left right => ?_⟩
    have apart := (isOpen f failed).apart n n left right
    simp [Name.meets] at apart
  · intro v
    rw [refutedBy_iff_failedSequents Rule.priority s]
    constructor
    · rintro ⟨f, failed, refuted⟩
      exact ⟨f, failed, (isOpen f failed).refutedBy_iff.mp refuted⟩
    · rintro ⟨f, failed, assigned⟩
      exact ⟨f, failed, (isOpen f failed).refutedBy_iff.mpr assigned⟩

example : ((Sequent.mk [.disj (.var "A") (.var "B")] [.var "A"]).derive
    Rule.priority).failedSequents = [⟨[.var "B"], [.var "A"]⟩] := by decide +kernel

end Sequent

end Turnstile

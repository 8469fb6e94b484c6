import Mathlib.Algebra.MonoidAlgebra.Basic
import Mathlib.Algebra.Order.Group.Multiset
import Mathlib.Tactic.Ring
import Turnstile.Clauses
import Turnstile.Proofs.Validity

/-! Failed branches do not depend on the order of the search. Clauses are counted by formal sums
over pairs of bags of names, where alternatives add and formulas side by side multiply. Every
inference keeps the count, except that closing a branch drops clauses with a name on both sides;
so a search with all rules fails exactly at the open clauses of its root, each as often as the
expansion gives it. -/
namespace Turnstile

/-- Names on the left and on the right, in no order. -/
abbrev Bags := Multiset String × Multiset String

namespace Clause

def bags (c : Clause) : Bags :=
  (c.left, c.right)

@[simp]
theorem bags_join (c d : Clause) : (c.join d).bags = c.bags + d.bags := rfl

/-- How often clauses have each pair of bags. -/
noncomputable def tally (cs : List Clause) : AddMonoidAlgebra ℕ Bags :=
  (cs.map fun c => .single c.bags 1).sum

@[simp]
theorem tally_nil : tally [] = 0 := rfl

@[simp]
theorem tally_cons (c : Clause) (cs : List Clause) :
    tally (c :: cs) = .single c.bags 1 + tally cs := by
  simp [tally]

@[simp]
theorem tally_append (cs ds : List Clause) : tally (cs ++ ds) = tally cs + tally ds := by
  simp [tally]

theorem tally_map_join (c : Clause) (ds : List Clause) :
    tally (ds.map c.join) = .single c.bags 1 * tally ds := by
  induction ds with
  | nil => simp
  | cons d ds ih => simp [ih, mul_add, AddMonoidAlgebra.single_mul_single]

@[simp]
theorem tally_combine (cs ds : List Clause) : tally (combine cs ds) = tally cs * tally ds := by
  induction cs with
  | nil => simp [combine]
  | cons c cs ih =>
    have parts : combine (c :: cs) ds = ds.map c.join ++ combine cs ds := rfl
    rw [parts, tally_append, tally_map_join, ih, tally_cons, add_mul]

theorem coeff_tally (cs : List Clause) (b : Bags) :
    (tally cs).coeff b = (cs.map bags).count b := by
  induction cs with
  | nil => simp
  | cons c cs ih => simp [ih, Finsupp.single_apply, List.count_cons, add_comm]

/-- A tally forgets only the order of the clauses and that of the names within them. -/
theorem perm_of_tally_eq {cs ds : List Clause} (same : tally cs = tally ds) :
    (cs.map bags).Perm (ds.map bags) := by
  rw [List.perm_iff_count]
  intro b
  rw [← coeff_tally, ← coeff_tally, same]

theorem isOpen_iff (c : Clause) : c.isOpen = true ↔ ∀ n ∈ c.bags.1, n ∉ c.bags.2 := by
  simp [isOpen, bags]

theorem map_bags_filter (cs : List Clause) :
    (cs.filter isOpen).map bags =
      (cs.map bags).filter fun b => decide (∀ n ∈ b.1, n ∉ b.2) := by
  have same : isOpen = (fun b : Bags => decide (∀ n ∈ b.1, n ∉ b.2)) ∘ bags := by
    funext c
    rw [Function.comp_apply, Bool.eq_iff_iff, isOpen_iff, decide_eq_true_iff]
  rw [List.filter_map, same]

/-- Whether a clause is open can be seen from its bags, so the tally of all clauses determines
that of the open ones. -/
theorem tally_filter_eq {cs ds : List Clause} (same : tally cs = tally ds) :
    tally (cs.filter isOpen) = tally (ds.filter isOpen) := by
  have perm := (perm_of_tally_eq same).filter fun b => decide (∀ n ∈ b.1, n ∉ b.2)
  ext b
  rw [coeff_tally, coeff_tally, map_bags_filter, map_bags_filter, perm.count_eq]

/-- What is put together has a part in every list. -/
theorem exists_part_of_mem {lists : List (List Clause)} {cs : List Clause} {c : Clause}
    (member : cs ∈ lists) (result : c ∈ lists.foldr combine [empty]) :
    ∃ d ∈ cs, d.left ⊆ c.left ∧ d.right ⊆ c.right := by
  induction lists generalizing c with
  | nil => cases member
  | cons first lists ih =>
    simp only [List.foldr_cons, combine, List.mem_flatMap, List.mem_map] at result
    obtain ⟨d, inFirst, e, inRest, rfl⟩ := result
    rcases List.mem_cons.mp member with rfl | later
    · exact ⟨d, inFirst, List.subset_append_left _ _, List.subset_append_left _ _⟩
    · obtain ⟨part, inside, left, right⟩ := ih later inRest
      exact ⟨part, inside, List.subset_append_of_subset_right _ left,
        List.subset_append_of_subset_right _ right⟩

theorem tally_foldr_combine (lists : List (List Clause)) :
    tally (lists.foldr combine [empty]) = (lists.map tally).prod := by
  induction lists with
  | nil =>
    have unit : empty.bags = 0 := rfl
    simp [unit, AddMonoidAlgebra.one_def]
  | cons cs lists ih => simp [ih]

theorem tally_flatMap {ι : Type} (parts : List ι) (f : ι → List Clause) :
    tally (parts.flatMap f) = (parts.map fun i => tally (f i)).sum := by
  induction parts with
  | nil => rfl
  | cons i parts ih => simp [ih]

end Clause

namespace Formula

/-- How often a formula on a side has clauses with each pair of bags. -/
noncomputable def tally (side : Side) (a : Formula) : AddMonoidAlgebra ℕ Bags :=
  Clause.tally (a.clauses side)

variable (side : Side) (a b : Formula)

@[simp]
theorem tally_neg : (neg a).tally side = a.tally side.other := by
  simp [tally, clauses]

@[simp]
theorem tally_conj_left : (conj a b).tally .left = a.tally .left * b.tally .left := by
  simp [tally, clauses]

@[simp]
theorem tally_conj_right : (conj a b).tally .right = a.tally .right + b.tally .right := by
  simp [tally, clauses]

@[simp]
theorem tally_disj_left : (disj a b).tally .left = a.tally .left + b.tally .left := by
  simp [tally, clauses]

@[simp]
theorem tally_disj_right : (disj a b).tally .right = a.tally .right * b.tally .right := by
  simp [tally, clauses]

end Formula

namespace Sequent

theorem tally_clauses (s : Sequent) :
    Clause.tally s.clauses =
      (s.left.map (Formula.tally .left)).prod * (s.right.map (Formula.tally .right)).prod := by
  rw [clauses, Clause.tally_foldr_combine, List.map_append, List.map_map, List.map_map,
    List.prod_append]
  rfl

theorem leftPremises_tally (p : Formula.Place) (right : List Formula)
    (compound : p.formula.kind ≠ .var) :
    Clause.tally (Sequent.mk (p.put [p.formula]) right).clauses =
      ((Rule.leftPremises p right).toList.map fun q => Clause.tally q.clauses).sum := by
  obtain ⟨before, formula, after⟩ := p
  cases formula with
  | var n => simp [Formula.kind] at compound
  | neg a =>
    simp [Rule.leftPremises, Premises.toList, Formula.Place.put, tally_clauses, Side.other]
    ring
  | conj a b =>
    simp [Rule.leftPremises, Premises.toList, Formula.Place.put, tally_clauses]
    ring
  | disj a b =>
    simp [Rule.leftPremises, Premises.toList, Formula.Place.put, tally_clauses]
    ring

theorem rightPremises_tally (left : List Formula) (p : Formula.Place)
    (compound : p.formula.kind ≠ .var) :
    Clause.tally (Sequent.mk left (p.put [p.formula])).clauses =
      ((Rule.rightPremises left p).toList.map fun q => Clause.tally q.clauses).sum := by
  obtain ⟨before, formula, after⟩ := p
  cases formula with
  | var n => simp [Formula.kind] at compound
  | neg a =>
    simp [Rule.rightPremises, Premises.toList, Formula.Place.put, tally_clauses, Side.other]
    ring
  | conj a b =>
    simp [Rule.rightPremises, Premises.toList, Formula.Place.put, tally_clauses]
    ring
  | disj a b =>
    simp [Rule.rightPremises, Premises.toList, Formula.Place.put, tally_clauses]
    ring

/-- A name on both sides stays there in every clause, so none is open. -/
theorem filter_clauses_of_shared {s : Sequent} {n : String} (left : .var n ∈ s.left)
    (right : .var n ∈ s.right) : s.clauses.filter Clause.isOpen = [] := by
  rw [List.filter_eq_nil_iff]
  intro c member isOpen
  have inLeft : [Clause.single .left n] ∈ s.left.map (Formula.clauses .left) :=
    List.mem_map.mpr ⟨_, left, by simp [Formula.clauses]⟩
  have inRight : [Clause.single .right n] ∈ s.right.map (Formula.clauses .right) :=
    List.mem_map.mpr ⟨_, right, by simp [Formula.clauses]⟩
  obtain ⟨d, single, leftPart, _⟩ :=
    Clause.exists_part_of_mem (List.mem_append_left _ inLeft) member
  obtain ⟨e, other, _, rightPart⟩ :=
    Clause.exists_part_of_mem (List.mem_append_right _ inRight) member
  obtain rfl := List.mem_singleton.mp single
  obtain rfl := List.mem_singleton.mp other
  exact (Clause.isOpen_iff c).mp isOpen n (leftPart (by simp [Clause.single]))
    (rightPart (by simp [Clause.single]))

/-- How often a sequent has open clauses with each pair of bags. -/
noncomputable def openTally (s : Sequent) : AddMonoidAlgebra ℕ Bags :=
  Clause.tally (s.clauses.filter Clause.isOpen)

theorem openTally_of_shared {s : Sequent} {n : String} (left : .var n ∈ s.left)
    (right : .var n ∈ s.right) : s.openTally = 0 := by
  rw [openTally, filter_clauses_of_shared left right, Clause.tally_nil]

theorem openTally_of_tally {s : Sequent} {premises : List Sequent}
    (same : Clause.tally s.clauses = (premises.map fun q => Clause.tally q.clauses).sum) :
    s.openTally = (premises.map openTally).sum := by
  rw [← Clause.tally_flatMap] at same
  rw [openTally, Clause.tally_filter_eq same, List.filter_flatMap, Clause.tally_flatMap]
  rfl

/-- No open clause is lost or gained by an inference. -/
theorem Reduces.openTally_eq {s : Sequent} {premises : Premises} (step : s.Reduces premises) :
    s.openTally = (premises.toList.map openTally).sum := by
  obtain ⟨left, right⟩ := s
  cases step with
  | @closing n m leftMember rightMember met =>
    obtain rfl : n = m := by simpa [Name.meets] using met
    rw [openTally_of_shared leftMember rightMember]
    unfold Rule.closingPremises
    split
    · rfl
    · have closed := openTally_of_shared (s := ⟨[.var n], [.var n]⟩) (n := n) (by simp) (by simp)
      simp [Premises.toList, closed]
  | @left p parts compound =>
    simp only at parts
    exact openTally_of_tally (parts ▸ leftPremises_tally p right compound)
  | @right p parts compound =>
    simp only at parts
    exact openTally_of_tally (parts ▸ rightPremises_tally left p compound)

/-- Variables are a single clause as they stand. -/
theorem clauses_of_variables {s : Sequent} (left : ∀ a ∈ s.left, ∃ v, a = .var v)
    (right : ∀ a ∈ s.right, ∃ v, a = .var v) : s.clauses = [Clause.ofSequent s] := by
  obtain ⟨leftSide, rightSide⟩ := s
  simp only at left right
  induction leftSide with
  | nil =>
    induction rightSide with
    | nil => rfl
    | cons a rest ih =>
      obtain ⟨n, rfl⟩ := right a (by simp)
      have tail := ih fun b member => right b (by simp [member])
      have parts : clauses ⟨[], .var n :: rest⟩ =
          Clause.combine [.single .right n] (clauses ⟨[], rest⟩) := rfl
      rw [parts, tail]
      rfl
  | cons a rest ih =>
    obtain ⟨n, rfl⟩ := left a (by simp)
    have tail := ih fun b member => left b (by simp [member])
    have parts : clauses ⟨.var n :: rest, rightSide⟩ =
        Clause.combine [.single .left n] (clauses ⟨rest, rightSide⟩) := rfl
    rw [parts, tail]
    rfl

theorem Open.isOpen_ofSequent {s : Sequent} (isOpen : s.Open) :
    (Clause.ofSequent s).isOpen = true := by
  have member {side : List Formula} (atoms : ∀ a ∈ side, ∃ v, a = .var v) {n : String}
      (named : n ∈ side.flatMap Formula.names) : .var n ∈ side := by
    obtain ⟨a, inside, name⟩ := List.mem_flatMap.mp named
    obtain ⟨v, rfl⟩ := atoms a inside
    obtain rfl : n = v := by simpa [Formula.names] using name
    exact inside
  rw [Clause.isOpen_iff]
  intro n left right
  have apart := isOpen.apart n n (member isOpen.left left) (member isOpen.right right)
  simp [Name.meets] at apart

theorem Open.openTally_eq {s : Sequent} (isOpen : s.Open) :
    s.openTally = Clause.tally [Clause.ofSequent s] := by
  rw [openTally, clauses_of_variables isOpen.left isOpen.right,
    List.filter_cons_of_pos isOpen.isOpen_ofSequent, List.filter_nil]

/-- A search fails as often with each pair of bags as its root has open clauses with them. -/
theorem tally_failedSequents {rules : List Rule} (all : ∀ rule : Rule, rule ∈ rules)
    (s : Sequent) :
    Clause.tally ((s.derive rules).failedSequents.map Clause.ofSequent) = s.openTally := by
  fun_induction derive rules s with
  | case1 s stuck =>
    have isOpen := open_of_firstInference?_eq_none all stuck
    simp [isOpen.openTally_eq]
  | case2 s rule principal inferred =>
    have step := (Rule.firstInference?_reduces inferred).openTally_eq
    simpa [Premises.toList] using step.symm
  | case3 s rule p principal inferred ih =>
    have step := (Rule.firstInference?_reduces inferred).openTally_eq
    simpa [Premises.toList, ih] using step.symm
  | case4 s rule p q principal inferred first second =>
    have step := (Rule.firstInference?_reduces inferred).openTally_eq
    simpa [Premises.toList, first, second] using step.symm

/-- The failed sequents of a search with all rules, in whichever order, are the open clauses of
its root, up to the order of the branches and that of the names. -/
theorem failedSequents_eq_open_clauses {rules : List Rule} (all : ∀ rule : Rule, rule ∈ rules)
    (s : Sequent) :
    (∀ f ∈ (s.derive rules).failedSequents,
      (∀ a ∈ f.left, ∃ n, a = .var n) ∧ ∀ a ∈ f.right, ∃ n, a = .var n) ∧
    (((s.derive rules).failedSequents.map fun f => (Clause.ofSequent f).bags : List Bags) :
        Multiset Bags) =
      ((s.clauses.filter Clause.isOpen).map Clause.bags : List Bags) := by
  constructor
  · intro f failed
    have isOpen := open_of_mem_failedSequents all failed
    exact ⟨isOpen.left, isOpen.right⟩
  · have perm := Clause.perm_of_tally_eq (tally_failedSequents all s)
    rw [List.map_map] at perm
    exact Multiset.coe_eq_coe.mpr perm

/-- A disjunction of a variable with itself fails twice, here with the branches taken first. -/
theorem failedSequents_repeated_disjunct :
    (∀ rule : Rule, rule ∈ [Rule.rightBranch, .leftBranch, .rightUnfold, .leftUnfold, .closing]) ∧
    (((Sequent.mk [.disj (.var "A") (.var "A"), .var "B"] [.neg (.var "C")]).derive
        [.rightBranch, .leftBranch, .rightUnfold, .leftUnfold, .closing]).failedSequents.map
          fun f => (Clause.ofSequent f).bags : Multiset Bags) =
      {({"A", "B", "C"}, 0), ({"A", "B", "C"}, 0)} := by
  have all : ∀ rule : Rule,
      rule ∈ [Rule.rightBranch, .leftBranch, .rightUnfold, .leftUnfold, .closing] := by
    intro rule
    cases rule <;> decide
  refine ⟨all, ?_⟩
  rw [(failedSequents_eq_open_clauses all _).2]
  decide

end Sequent

end Turnstile

import Turnstile.Proofs.Priority
import Turnstile.Proofs.Subformulas

/-! Searches under other names. All that a search asks about names is which of them meet. A renaming
that keeps the answer for the names of a sequent takes every step from the sequent to the step from
the renamed one, and no step brings in other names. So it takes the whole search to the search from
the renamed sequent. -/
namespace Turnstile

variable {α β : Type}

namespace Formula

variable (r : α → β)

@[simp]
theorem kind_rename (a : Formula α) : (a.rename r).kind = a.kind := by
  cases a <;> rfl

def Place.rename (p : Place α) : Place β :=
  ⟨p.before.map (·.rename r), p.formula.rename r, p.after.map (·.rename r)⟩

@[simp]
theorem Place.formula_rename (p : Place α) : (p.rename r).formula = p.formula.rename r := rfl

@[simp]
theorem Place.index_rename (p : Place α) : (p.rename r).index = p.index := by
  simp [index, rename]

/-- Where the first formula of some kinds stands does not depend on names. -/
theorem first?_rename (kinds : List Kind) (side : List (Formula α)) :
    Place.first? kinds (side.map (·.rename r)) = (Place.first? kinds side).map (·.rename r) := by
  induction side with
  | nil => rfl
  | cons a rest ih =>
    simp only [List.map_cons, Place.first?, kind_rename]
    split
    · rfl
    · rw [ih, Option.map_map, Option.map_map]
      rfl

end Formula

variable {r : α → β}

def Premises.rename (r : α → β) : Premises α → Premises β
  | none => none
  | one p => one (p.rename r)
  | two p q => two (p.rename r) (q.rename r)

theorem Premises.toList_rename (premises : Premises α) :
    (premises.rename r).toList = premises.toList.map (·.rename r) := by
  cases premises <;> rfl

def Principal.rename (r : α → β) : Principal α → Principal β
  | shared name i j => shared (r name) i j
  | formula side i kind => formula side i kind

def Inference.rename (r : α → β) (i : Inference α) : Inference β :=
  ⟨i.rule, i.premises.rename r, i.principal.rename r⟩

def SharedVariable.rename (r : α → β) (v : SharedVariable α) : SharedVariable β :=
  ⟨r v.left, r v.right, v.leftIndex, v.rightIndex⟩

namespace Rule

theorem closingPremises_rename (s : Sequent α) (v w : α) :
    closingPremises (s.rename r) (r v) (r w) = (closingPremises s v w).rename r := by
  obtain ⟨left, right⟩ := s
  rcases left with _ | ⟨a, _ | ⟨b, left⟩⟩ <;> rcases right with _ | ⟨c, _ | ⟨d, right⟩⟩ <;> rfl

theorem leftPremises_rename (p : Formula.Place α) (right : List (Formula α)) :
    leftPremises (p.rename r) (right.map (·.rename r)) = (leftPremises p right).rename r := by
  obtain ⟨before, formula, after⟩ := p
  cases formula <;>
    simp [leftPremises, Formula.Place.rename, Formula.Place.put, Formula.rename, Premises.rename,
      Sequent.rename]

theorem rightPremises_rename (left : List (Formula α)) (p : Formula.Place α) :
    rightPremises (left.map (·.rename r)) (p.rename r) = (rightPremises left p).rename r := by
  obtain ⟨before, formula, after⟩ := p
  cases formula <;>
    simp [rightPremises, Formula.Place.rename, Formula.Place.put, Formula.rename, Premises.rename,
      Sequent.rename]

theorem inferLeft?_rename (rule : Rule) (kinds : List Formula.Kind) (s : Sequent α) :
    inferLeft? rule kinds (s.rename r) = (inferLeft? rule kinds s).map (·.rename r) := by
  simp [inferLeft?, Sequent.rename, Formula.first?_rename, Function.comp_def, Inference.rename,
    leftPremises_rename, Principal.rename]

theorem inferRight?_rename (rule : Rule) (kinds : List Formula.Kind) (s : Sequent α) :
    inferRight? rule kinds (s.rename r) = (inferRight? rule kinds s).map (·.rename r) := by
  simp [inferRight?, Sequent.rename, Formula.first?_rename, Function.comp_def, Inference.rename,
    rightPremises_rename, Principal.rename]

end Rule

/-- Two searches that look for the same things in the same order find the same. -/
theorem findSome?_of_map {τ φ ψ : Type} {p : τ → Option ψ} {q : τ → Option φ} {f : φ → ψ}
    {list : List τ} (agree : ∀ x ∈ list, p x = (q x).map f) :
    list.findSome? p = (list.findSome? q).map f := by
  induction list with
  | nil => rfl
  | cons x rest ih =>
    obtain ⟨here, others⟩ := List.forall_mem_cons.mp agree
    rw [List.findSome?_cons, List.findSome?_cons, here, ih others]
    cases q x <;> rfl

theorem Sequent.variable_mem_names {s : Sequent α} (side : Side) {n : α}
    (member : .var n ∈ s.formulas side) : n ∈ s.names :=
  (Occurs.member member).name_mem (List.mem_singleton_self n)

variable [Name α] [Name β]

/-- Of some names the same meet before and after a renaming. -/
def Faithful (r : α → β) (names : List α) : Prop :=
  ∀ m ∈ names, ∀ n ∈ names, Name.meets (r m) (r n) = Name.meets m n

theorem Faithful.mono {names others : List α} (faithful : Faithful r names)
    (fewer : others ⊆ names) : Faithful r others := by
  intro m first n second
  exact faithful m (fewer first) n (fewer second)

theorem meeting?_rename {name : α} (side : List (Formula α))
    (faithful : ∀ n, .var n ∈ side → Name.meets (r name) (r n) = Name.meets name n) :
    Formula.meeting? (r name) (side.map (·.rename r)) =
      (Formula.meeting? name side).map fun found => (r found.1, found.2) := by
  rw [Formula.meeting?, List.zipIdx_map, List.findSome?_map, Formula.meeting?]
  apply findSome?_of_map
  rintro ⟨a, i⟩ member
  cases a with
  | var n =>
    have same := faithful n (List.fst_mem_of_mem_zipIdx member)
    simp only [Function.comp, Prod.map, Formula.rename, same]
    split <;> rfl
  | neg a | conj a b | disj a b => rfl

namespace Sequent

variable {s : Sequent α}

theorem shared?_rename (faithful : Faithful r s.names) :
    (s.rename r).shared? = s.shared?.map (·.rename r) := by
  rw [shared?, rename, List.zipIdx_map, List.findSome?_map, shared?]
  apply findSome?_of_map
  rintro ⟨a, i⟩ member
  cases a with
  | var name =>
    have here := variable_mem_names .left (List.fst_mem_of_mem_zipIdx member)
    have met := meeting?_rename s.right fun n inside =>
      faithful name here n (variable_mem_names .right inside)
    simp [Function.comp_def, Formula.rename, met, SharedVariable.rename]
  | neg a | conj a b | disj a b => rfl

end Sequent

namespace Rule

variable {s : Sequent α}

/-- A rule makes the same step under other names. -/
theorem infer?_rename (faithful : Faithful r s.names) (rule : Rule) :
    rule.infer? (s.rename r) = (rule.infer? s).map (·.rename r) := by
  cases rule with
  | closing =>
    simp [infer?, Sequent.shared?_rename faithful, Function.comp_def, Inference.rename,
      SharedVariable.rename, closingPremises_rename, Principal.rename]
  | leftUnfold | leftBranch => exact inferLeft?_rename _ _ s
  | rightUnfold | rightBranch => exact inferRight?_rename _ _ s

theorem firstInference?_rename (faithful : Faithful r s.names) (rules : List Rule) :
    firstInference? rules (s.rename r) = (firstInference? rules s).map (·.rename r) :=
  findSome?_of_map fun rule _ => infer?_rename faithful rule

end Rule

namespace Sequent

/-- A renaming under which the same names meet takes a search to the search under the new names. -/
theorem derive_rename {s : Sequent α} (faithful : Faithful r s.names) (rules : List Rule) :
    (s.rename r).derive rules = (s.derive rules).map (·.rename r) id := by
  have first := Rule.firstInference?_rename faithful rules
  cases found : Rule.firstInference? rules s with
  | none =>
    rw [found] at first
    rw [derive_of_stuck found, derive_of_stuck first]
    rfl
  | some i =>
    rw [found] at first
    obtain ⟨sequent, label, branches⟩ := derive_of_inference found
    obtain ⟨newSequent, newLabel, newBranches⟩ := derive_of_inference first
    apply ProofTree.eq_of_branches
    · rw [newSequent, ProofTree.sequent_map, sequent]
    · rw [newLabel, ProofTree.label_map, label]
      rfl
    · rw [newBranches, ProofTree.branches_map, branches]
      simp only [Inference.rename, Premises.toList_rename, List.map_map]
      apply List.map_congr_left
      intro p premise
      -- A premise has names of the conclusion only, so the renaming is faithful to it too.
      have lighter := Rule.firstInference?_weight found premise
      have parts := (Rule.firstInference?_reduces found).occurs premise
      have below := derive_rename (faithful.mono (names_subset parts)) rules
      simp [ProofTree.Branch.map, below]
termination_by s.weight

theorem faithful_of_injective {names : List String} {r : String → String}
    (injective : ∀ m ∈ names, ∀ n ∈ names, r m = r n → m = n) : Faithful r names := by
  intro m first n second
  have same : r m = r n ↔ m = n := ⟨injective m first n second, congrArg r⟩
  exact Bool.eq_iff_iff.mpr (beq_iff_eq.trans (same.trans beq_iff_eq.symm))

/-- The search does not care what variables are called: if no two variables of a sequent are given
the same new name, then the search from the renamed sequent is the old one with all its sequents
renamed, node by node and with the same labels. -/
theorem derive_equivariant (rules : List Rule) (s : Sequent) (r : String → String)
    (injective : ∀ m ∈ s.names, ∀ n ∈ s.names, r m = r n → m = n) :
    (s.rename r).derive rules = (s.derive rules).map (·.rename r) id :=
  derive_rename (faithful_of_injective injective) rules

/-- Two names trade places while all others are lost. -/
theorem derive_equivariant_swapped :
    (∀ m ∈ (Sequent.mk [.disj (.var "A") (.var "B")] [.var "A"]).names,
      ∀ n ∈ (Sequent.mk [.disj (.var "A") (.var "B")] [.var "A"]).names,
        (if m = "A" then "B" else "A") = (if n = "A" then "B" else "A") → m = n) ∧
    (Sequent.mk [.disj (.var "B") (.var "A")] [.var "B"]).derive Rule.priority =
      ((Sequent.mk [.disj (.var "A") (.var "B")] [.var "A"]).derive Rule.priority).map
        (·.rename fun n => if n = "A" then "B" else "A") id := by
  have injective : ∀ m ∈ (Sequent.mk [.disj (.var "A") (.var "B")] [.var "A"]).names,
      ∀ n ∈ (Sequent.mk [.disj (.var "A") (.var "B")] [.var "A"]).names,
        (if m = "A" then "B" else "A") = (if n = "A" then "B" else "A") → m = n := by
    decide
  exact ⟨injective, derive_equivariant Rule.priority _ _ injective⟩

/-- A renaming that gives two variables one name can close what was open. -/
example : ((Sequent.mk [.var "A"] [.var "B"]).rename fun _ => "A").derive Rule.priority ≠
    ((Sequent.mk [.var "A"] [.var "B"]).derive Rule.priority).map (·.rename fun _ => "A") id := by
  decide +kernel

end Sequent

end Turnstile

import Turnstile.Search

/-! What an inference can do to a sequent, where no inference is left, and what the tree of a
finished search is made of. Nothing here depends on the order of the rules. -/
namespace Turnstile

variable {α : Type}

namespace ProofTree

variable {σ ρ τ υ : Type}

@[simp]
theorem failedSequents_closed (s : σ) (l : ρ) : (closed s l).failedSequents = [] := rfl

@[simp]
theorem failedSequents_failed (s : σ) (l : ρ) : (failed s l).failedSequents = [s] := rfl

@[simp]
theorem failedSequents_single (s : σ) (l : ρ) (t : ProofTree σ ρ) :
    (single s l t).failedSequents = t.failedSequents := by
  simp [failedSequents, walk, isFailed]

@[simp]
theorem failedSequents_double (s : σ) (l : ρ) (t u : ProofTree σ ρ) :
    (double s l t u).failedSequents = t.failedSequents ++ u.failedSequents := by
  simp [failedSequents, walk, isFailed]

theorem isProved_iff_failedSequents (t : ProofTree σ ρ) :
    t.isProved = true ↔ t.failedSequents = [] := by
  induction t with
  | closed s l => simp [isProved]
  | failed s l => simp [isProved]
  | single s l t ih => simp [isProved, ih]
  | double s l t u first second => simp [isProved, first, second]

theorem sequent_map (f : σ → τ) (g : ρ → υ) (t : ProofTree σ ρ) :
    (t.map f g).sequent = f t.sequent := by
  cases t <;> rfl

theorem label_map (f : σ → τ) (g : ρ → υ) (t : ProofTree σ ρ) : (t.map f g).label = g t.label := by
  cases t <;> rfl

theorem walk_map (f : σ → τ) (g : ρ → υ) (t : ProofTree σ ρ) :
    (t.map f g).walk = t.walk.map (map f g) := by
  induction t with
  | closed s l => rfl
  | failed s l => rfl
  | single s l t ih => simp [map, walk, ih]
  | double s l t u first second => simp [map, walk, first, second]

theorem branches_map (f : σ → τ) (g : ρ → υ) (t : ProofTree σ ρ) :
    (t.map f g).branches = t.branches.map (Branch.map f g) := by
  cases t <;> rfl

/-- A node is put together from what it carries and what stands below it. -/
theorem eq_of_branches {t u : ProofTree σ ρ} (sequent : t.sequent = u.sequent)
    (label : t.label = u.label) (branches : t.branches = u.branches) : t = u := by
  have first := ofBranches_branches t
  rw [sequent, label, branches, ofBranches_branches u] at first
  exact (Except.ok.inj first).symm

end ProofTree

/-- What an inference makes of a sequent, whichever rule it belongs to: it closes the sequent
with two variables that meet, or takes apart one formula of a side. -/
inductive Sequent.Reduces [Name α] (s : Sequent α) : Premises α → Prop where
  | closing {v w : α} : .var v ∈ s.left → .var w ∈ s.right → Name.meets v w = true →
      Reduces s (Rule.closingPremises s v w)
  | left {p : Formula.Place α} : s.left = p.put [p.formula] → p.formula.kind ≠ .var →
      Reduces s (Rule.leftPremises p s.right)
  | right {p : Formula.Place α} : s.right = p.put [p.formula] → p.formula.kind ≠ .var →
      Reduces s (Rule.rightPremises s.left p)

namespace Rule

theorem first?_put {kinds : List Formula.Kind} {side : List (Formula α)} {p : Formula.Place α}
    (found : Formula.Place.first? kinds side = some p) (compound : .var ∉ kinds) :
    side = p.put [p.formula] ∧ p.formula.kind ≠ .var := by
  obtain ⟨parts, member, _⟩ := Formula.Place.first?_eq_some found
  refine ⟨by simpa [Formula.Place.put] using parts, ?_⟩
  intro kind
  exact compound (kind ▸ member)

theorem infer?_reduces [Name α] {rule : Rule} {s : Sequent α} {i : Inference α}
    (inferred : rule.infer? s = some i) : s.Reduces i.premises := by
  cases rule with
  | closing =>
    obtain ⟨v, found, rfl⟩ := Option.map_eq_some_iff.mp inferred
    obtain ⟨left, right, met⟩ := shared?_sides found
    exact .closing left right met
  | leftUnfold | leftBranch =>
    obtain ⟨p, found, rfl⟩ := Option.map_eq_some_iff.mp inferred
    obtain ⟨parts, compound⟩ := first?_put found (by decide)
    exact .left parts compound
  | rightUnfold | rightBranch =>
    obtain ⟨p, found, rfl⟩ := Option.map_eq_some_iff.mp inferred
    obtain ⟨parts, compound⟩ := first?_put found (by decide)
    exact .right parts compound

theorem firstInference?_reduces [Name α] {rules : List Rule} {s : Sequent α} {i : Inference α}
    (inferred : firstInference? rules s = some i) : s.Reduces i.premises := by
  obtain ⟨rule, _, hit⟩ := List.exists_of_findSome?_eq_some inferred
  exact infer?_reduces hit

theorem meeting?_eq_none_iff [Name α] {name : α} {side : List (Formula α)} :
    Formula.meeting? name side = none ↔ ∀ w, .var w ∈ side → Name.meets name w = false := by
  simp only [Formula.meeting?, List.findSome?_eq_none_iff, Prod.forall,
    List.mem_zipIdx_iff_getElem?]
  constructor
  · intro unmet w member
    obtain ⟨i, lookup⟩ := List.mem_iff_getElem?.mp member
    simpa using unmet (.var w) i lookup
  · intro unmet a i lookup
    cases a with
    | var w => simp [unmet w (List.mem_of_getElem? lookup)]
    | _ => rfl

theorem shared?_eq_none_iff [Name α] {s : Sequent α} :
    s.shared? = none ↔
      ∀ v w, .var v ∈ s.left → .var w ∈ s.right → Name.meets v w = false := by
  simp only [Sequent.shared?, List.findSome?_eq_none_iff, Prod.forall,
    List.mem_zipIdx_iff_getElem?]
  constructor
  · intro unmet v w left right
    obtain ⟨i, lookup⟩ := List.mem_iff_getElem?.mp left
    have missed := Option.map_eq_none_iff.mp (unmet (.var v) i lookup)
    exact meeting?_eq_none_iff.mp missed w right
  · intro unmet a i lookup
    cases a with
    | var v =>
      have missed := meeting?_eq_none_iff.mpr fun w right =>
        unmet v w (List.mem_of_getElem? lookup) right
      simp [missed]
    | _ => rfl

theorem inferLeft?_eq_none_iff {rule : Rule} {kinds : List Formula.Kind} {s : Sequent α} :
    inferLeft? rule kinds s = none ↔ ∀ a ∈ s.left, a.kind ∉ kinds := by
  rw [inferLeft?, Option.map_eq_none_iff, Formula.Place.first?_eq_none_iff]

theorem inferRight?_eq_none_iff {rule : Rule} {kinds : List Formula.Kind} {s : Sequent α} :
    inferRight? rule kinds s = none ↔ ∀ a ∈ s.right, a.kind ∉ kinds := by
  rw [inferRight?, Option.map_eq_none_iff, Formula.Place.first?_eq_none_iff]

theorem firstInference?_eq_none_iff [Name α] {rules : List Rule} {s : Sequent α} :
    firstInference? rules s = none ↔ ∀ rule ∈ rules, rule.infer? s = none :=
  List.findSome?_eq_none_iff

end Rule

namespace Sequent

/-- A sequent of variables of which no two meet. -/
structure Open [Name α] (s : Sequent α) : Prop where
  left : ∀ a ∈ s.left, ∃ v, a = .var v
  right : ∀ a ∈ s.right, ∃ w, a = .var w
  apart : ∀ v w, .var v ∈ s.left → .var w ∈ s.right → Name.meets v w = false

variable [Name α]

/-- A formula that no rule takes apart is a variable, because every other kind belongs to one
rule of each side. -/
theorem open_of_firstInference?_eq_none {rules : List Rule} {s : Sequent α}
    (all : ∀ rule : Rule, rule ∈ rules) (stuck : Rule.firstInference? rules s = none) :
    s.Open := by
  have none (rule : Rule) : rule.infer? s = none :=
    Rule.firstInference?_eq_none_iff.mp stuck rule (all rule)
  refine ⟨?_, ?_, Rule.shared?_eq_none_iff.mp (Option.map_eq_none_iff.mp (none .closing))⟩
  · intro a member
    have unfold := Rule.inferLeft?_eq_none_iff.mp (none .leftUnfold) a member
    have branch := Rule.inferLeft?_eq_none_iff.mp (none .leftBranch) a member
    cases a with
    | var v => exact ⟨v, rfl⟩
    | _ => simp [Formula.kind] at unfold branch
  · intro a member
    have unfold := Rule.inferRight?_eq_none_iff.mp (none .rightUnfold) a member
    have branch := Rule.inferRight?_eq_none_iff.mp (none .rightBranch) a member
    cases a with
    | var v => exact ⟨v, rfl⟩
    | _ => simp [Formula.kind] at unfold branch

/-- A search fails only where it can make no inference. -/
theorem firstInference?_eq_none_of_failed {rules : List Rule} {s f : Sequent α}
    (failed : f ∈ (s.derive rules).failedSequents) : Rule.firstInference? rules f = none := by
  fun_induction derive rules s with
  | case1 s stuck =>
    obtain rfl := List.mem_singleton.mp failed
    exact stuck
  | case2 => simp at failed
  | case3 s rule p principal inferred ih => exact ih (by simpa using failed)
  | case4 s rule p q principal inferred first second =>
    rcases List.mem_append.mp (by simpa using failed) with failed | failed
    · exact first failed
    · exact second failed

end Sequent

end Turnstile

import Turnstile.Calculus
import Turnstile.Proofs.Validity

/-! Which step a search takes where. Every node of a search is the search from its own sequent, so
it is enough to know the first step from any sequent: it closes the sequent if a variable is shared,
else it follows the first rule that has a formula to work on, and fails if there is none. -/
namespace Turnstile

namespace ProofTree

variable {σ ρ : Type}

theorem mem_walk_iff {t n : ProofTree σ ρ} :
    n ∈ t.walk ↔ n = t ∨ ∃ below, .tree below ∈ t.branches ∧ n ∈ below.walk := by
  cases t with
  | closed s l => simp [walk, branches]
  | failed s l => simp [walk, branches]
  | single s l u => simp [walk, branches]
  | double s l u w => simp [walk, branches, or_and_right, exists_or]

theorem isClosed_iff_branches (t : ProofTree σ ρ) : t.isClosed = true ↔ t.branches = [] := by
  cases t <;> simp [isClosed, branches]

theorem isFailed_iff_branches (t : ProofTree σ ρ) : t.isFailed = true ↔ t.branches = [.fail] := by
  cases t <;> simp [isFailed, branches]

end ProofTree

namespace Sequent

variable {α : Type} [Name α] {rules : List Rule}

theorem derive_of_stuck {s : Sequent α} (stuck : Rule.firstInference? rules s = none) :
    s.derive rules = .failed s Derivation.failLabel := by
  rw [derive]
  split <;> cases stuck.symm.trans ‹_›
  rfl

/-- A node rests on the searches from the premises of the first inference. -/
theorem derive_of_inference {s : Sequent α} {i : Inference α}
    (inferred : Rule.firstInference? rules s = some i) :
    (s.derive rules).sequent = s ∧ (s.derive rules).label = some i.rule.name ∧
      (s.derive rules).branches = (i.premises.toList.map (derive rules)).map .tree := by
  rw [derive]
  split <;> cases inferred.symm.trans ‹_› <;> exact ⟨rfl, rfl, rfl⟩

theorem derive_sequent (rules : List Rule) (s : Sequent α) : (s.derive rules).sequent = s := by
  cases found : Rule.firstInference? rules s with
  | none => rw [derive_of_stuck found, ProofTree.sequent]
  | some i => exact (derive_of_inference found).1

/-- The search does the same at a sequent wherever it meets it. -/
theorem eq_derive_of_mem_walk {s : Sequent α} {n : Derivation α}
    (member : n ∈ (s.derive rules).walk) : n = n.sequent.derive rules := by
  rcases ProofTree.mem_walk_iff.mp member with rfl | ⟨below, branch, inside⟩
  · rw [derive_sequent]
  · cases found : Rule.firstInference? rules s with
    | none =>
      rw [derive_of_stuck found] at branch
      simp [ProofTree.branches] at branch
    | some i =>
      rw [(derive_of_inference found).2.2] at branch
      obtain ⟨p, premise, rfl⟩ : ∃ p ∈ i.premises.toList, p.derive rules = below := by
        simpa using branch
      have lighter := Rule.firstInference?_weight found premise
      exact eq_derive_of_mem_walk inside
termination_by s.weight

end Sequent

namespace Rule

variable {s : Sequent}

/-- The condition on paper is the one that the search tests. -/
theorem infer?_eq_none_iff (rule : Rule) : rule.infer? s = none ↔ ¬rule.Applies s := by
  cases rule with
  | closing =>
    rw [infer?, Option.map_eq_none_iff, shared?_eq_none_iff]
    simp only [Applies, Sequent.Shares, Name.meets, beq_eq_false_iff_ne]
    constructor
    · rintro apart ⟨v, left, right⟩
      exact apart v v left right rfl
    · rintro unshared v w left right rfl
      exact unshared ⟨v, left, right⟩
  | leftUnfold | leftBranch =>
    rw [infer?, inferLeft?_eq_none_iff]
    simp [Applies]
  | rightUnfold | rightBranch =>
    rw [infer?, inferRight?_eq_none_iff]
    simp [Applies]

theorem decomposes_left {p : Formula.Place} {rule : Rule} {kinds : List Formula.Kind}
    (known : rule = leftUnfold ∧ kinds = [.neg, .conj] ∨ rule = leftBranch ∧ kinds = [.disj])
    (found : Formula.Place.first? kinds s.left = some p) :
    rule.Decomposes s (leftPremises p s.right).toList := by
  obtain ⟨left, right⟩ := s
  obtain ⟨before, formula, after⟩ := p
  obtain ⟨parts, member, others⟩ := Formula.Place.first?_eq_some found
  simp only at parts
  subst parts
  rcases known with ⟨rfl, rfl⟩ | ⟨rfl, rfl⟩
  · have earlier : ∀ b ∈ before, b.kind ≠ .neg ∧ b.kind ≠ .conj := by simpa using others
    cases formula with
    | var v => simp [Formula.kind] at member
    | disj a b => simp [Formula.kind] at member
    | neg a => simpa [leftPremises, Premises.toList, Formula.Place.put] using .negLeft earlier
    | conj a b => simpa [leftPremises, Premises.toList, Formula.Place.put] using .conjLeft earlier
  · have earlier : ∀ b ∈ before, b.kind ≠ .disj := by simpa using others
    cases formula with
    | var v => simp [Formula.kind] at member
    | neg a => simp [Formula.kind] at member
    | conj a b => simp [Formula.kind] at member
    | disj a b => simpa [leftPremises, Premises.toList, Formula.Place.put] using .disjLeft earlier

theorem decomposes_right {p : Formula.Place} {rule : Rule} {kinds : List Formula.Kind}
    (known : rule = rightUnfold ∧ kinds = [.neg, .disj] ∨ rule = rightBranch ∧ kinds = [.conj])
    (found : Formula.Place.first? kinds s.right = some p) :
    rule.Decomposes s (rightPremises s.left p).toList := by
  obtain ⟨left, right⟩ := s
  obtain ⟨before, formula, after⟩ := p
  obtain ⟨parts, member, others⟩ := Formula.Place.first?_eq_some found
  simp only at parts
  subst parts
  rcases known with ⟨rfl, rfl⟩ | ⟨rfl, rfl⟩
  · have earlier : ∀ b ∈ before, b.kind ≠ .neg ∧ b.kind ≠ .disj := by simpa using others
    cases formula with
    | var v => simp [Formula.kind] at member
    | conj a b => simp [Formula.kind] at member
    | neg a => simpa [rightPremises, Premises.toList, Formula.Place.put] using .negRight earlier
    | disj a b => simpa [rightPremises, Premises.toList, Formula.Place.put] using .disjRight earlier
  · have earlier : ∀ b ∈ before, b.kind ≠ .conj := by simpa using others
    cases formula with
    | var v => simp [Formula.kind] at member
    | neg a => simp [Formula.kind] at member
    | disj a b => simp [Formula.kind] at member
    | conj a b => simpa [rightPremises, Premises.toList, Formula.Place.put] using .conjRight earlier

/-- A rule other than closing makes of a sequent what it does on paper. -/
theorem infer?_decomposes {rule : Rule} {i : Inference} (other : rule ≠ closing)
    (inferred : rule.infer? s = some i) :
    i.rule = rule ∧ rule.Decomposes s i.premises.toList := by
  cases rule with
  | closing => exact (other rfl).elim
  | leftUnfold =>
    obtain ⟨p, found, rfl⟩ := Option.map_eq_some_iff.mp inferred
    exact ⟨rfl, decomposes_left (.inl ⟨rfl, rfl⟩) found⟩
  | leftBranch =>
    obtain ⟨p, found, rfl⟩ := Option.map_eq_some_iff.mp inferred
    exact ⟨rfl, decomposes_left (.inr ⟨rfl, rfl⟩) found⟩
  | rightUnfold =>
    obtain ⟨p, found, rfl⟩ := Option.map_eq_some_iff.mp inferred
    exact ⟨rfl, decomposes_right (.inl ⟨rfl, rfl⟩) found⟩
  | rightBranch =>
    obtain ⟨p, found, rfl⟩ := Option.map_eq_some_iff.mp inferred
    exact ⟨rfl, decomposes_right (.inr ⟨rfl, rfl⟩) found⟩

theorem shared?_leftmost {v : SharedVariable} (found : s.shared? = some v) :
    v.right = v.left ∧ s.LeftmostShared v.left := by
  obtain ⟨left, right, met⟩ := shared?_sides found
  have same : v.right = v.left := (beq_iff_eq.mp met).symm
  refine ⟨same, ?_⟩
  obtain ⟨earlier, ⟨a, i⟩, later, parts, hit, missed⟩ := List.findSome?_eq_some_iff.mp found
  have whole : s.left = earlier.map Prod.fst ++ a :: later.map Prod.fst := by
    simpa using congrArg (List.map Prod.fst) parts
  cases a with
  | var n =>
    obtain ⟨other, _, rfl⟩ := Option.map_eq_some_iff.mp hit
    refine ⟨_, _, whole, same ▸ right, fun w before inside => ?_⟩
    -- A variable before this one was passed over, so it met none on the right.
    obtain ⟨⟨b, k⟩, place, rfl⟩ := List.mem_map.mp before
    have passed := Option.map_eq_none_iff.mp (missed _ place)
    have unmet := meeting?_eq_none_iff.mp passed w inside
    simp [Name.meets] at unmet
  | neg _ | conj _ _ | disj _ _ => cases hit

theorem firstInference?_initial (v : String) :
    firstInference? priority (Sequent.mk [.var v] [.var v]) =
      some ⟨closing, .none, .shared v 0 0⟩ := by
  simp [firstInference?, priority, infer?, Sequent.shared?, Formula.meeting?, Name.meets,
    closingPremises]

/-- Closing leaves no premise of an initial sequent, and an initial premise of any other. -/
theorem closingPremises_of_shared {v : String} (left : .var v ∈ s.left) (right : .var v ∈ s.right) :
    (s.Initial ∧ closingPremises s v v = .none) ∨
      ¬s.Initial ∧ closingPremises s v v = .one ⟨[.var v], [.var v]⟩ := by
  obtain ⟨leftSide, rightSide⟩ := s
  unfold closingPremises
  split
  · rename_i a b leftParts rightParts
    simp only at leftParts rightParts left right
    subst leftParts rightParts
    obtain rfl := List.mem_singleton.mp left
    obtain rfl := List.mem_singleton.mp right
    exact .inl ⟨⟨v, rfl⟩, rfl⟩
  · rename_i other
    refine .inr ⟨?_, rfl⟩
    rintro ⟨w, same⟩
    cases same
    exact other _ _ rfl rfl

end Rule

namespace Sequent

variable {s : Sequent}

theorem LeftmostShared.shares {v : String} (leftmost : s.LeftmostShared v) : s.Shares := by
  obtain ⟨before, after, parts, right, _⟩ := leftmost
  exact ⟨v, by simp [parts], right⟩

theorem Initial.shares (initial : s.Initial) : s.Shares := by
  obtain ⟨v, rfl⟩ := initial
  exact ⟨v, by simp, by simp⟩

end Sequent

theorem Rule.Decomposes.ne_nil {rule : Rule} {s : Sequent} {premises : List Sequent}
    (step : rule.Decomposes s premises) : premises ≠ [] := by
  cases step <;> simp

theorem Rule.Applies.not_flat {rule : Rule} {s : Sequent} (applies : rule.Applies s)
    (other : rule ≠ closing) : ¬s.Flat := by
  intro flat
  cases rule with
  | closing => exact other rfl
  | leftUnfold | leftBranch =>
    obtain ⟨a, member, kind⟩ := applies
    obtain ⟨v, rfl⟩ := flat .left a member
    simp [Formula.kind] at kind
  | rightUnfold | rightBranch =>
    obtain ⟨a, member, kind⟩ := applies
    obtain ⟨v, rfl⟩ := flat .right a member
    simp [Formula.kind] at kind

namespace Derivation

open Sequent

theorem derive_initial (v : String) :
    (Sequent.mk [.var v] [.var v]).derive Rule.priority =
      .closed ⟨[.var v], [.var v]⟩ (some "axiom") := by
  rw [derive]
  split <;> cases (Rule.firstInference?_initial v).symm.trans ‹_›
  rfl

theorem takes_of_stuck {s : Sequent} (stuck : Rule.firstInference? Rule.priority s = none) :
    Takes (s.derive Rule.priority) .failure := by
  have isOpen := open_of_firstInference?_eq_none Rule.mem_priority stuck
  rw [derive_of_stuck stuck]
  refine ⟨?_, ?_, rfl, rfl⟩
  · intro side
    cases side with
    | left => exact isOpen.left
    | right => exact isOpen.right
  · rintro ⟨v, left, right⟩
    have apart := isOpen.apart v v left right
    simp [Name.meets] at apart

theorem takes_of_closing {s : Sequent} {i : Inference}
    (found : Rule.firstInference? Rule.priority s = some i)
    (inferred : Rule.closing.infer? s = some i) :
    Takes (s.derive Rule.priority) .initial ∨ Takes (s.derive Rule.priority) .reduction := by
  obtain ⟨sequent, label, branches⟩ := derive_of_inference found
  obtain ⟨v, shared, rfl⟩ := Option.map_eq_some_iff.mp inferred
  obtain ⟨left, right, _⟩ := Rule.shared?_sides shared
  obtain ⟨same, leftmost⟩ := Rule.shared?_leftmost shared
  rw [same] at right branches
  rcases Rule.closingPremises_of_shared left right with ⟨initial, none⟩ | ⟨other, one⟩
  · rw [none] at branches
    exact .inl ⟨sequent.symm ▸ initial, label, branches⟩
  · rw [one] at branches
    refine .inr ⟨sequent.symm ▸ other, label, v.left, _, sequent.symm ▸ leftmost, branches, ?_, ?_⟩
    · exact derive_sequent _ _
    · rw [derive_initial]
      rfl

theorem takes_of_decomposing {s : Sequent} {i : Inference} {rule : Rule}
    {earlier later : List Rule} (order : Rule.decomposing = earlier ++ rule :: later)
    (found : Rule.firstInference? Rule.priority s = some i)
    (inferred : rule.infer? s = some i) (unshared : Rule.closing.infer? s = none)
    (missed : ∀ other ∈ earlier, other.infer? s = none) :
    Takes (s.derive Rule.priority) .decomposition := by
  obtain ⟨sequent, label, branches⟩ := derive_of_inference found
  have other : rule ≠ .closing := by
    rintro rfl
    cases inferred.symm.trans unshared
  obtain ⟨same, decomposes⟩ := Rule.infer?_decomposes other inferred
  have applies : rule.Applies s := by
    apply Classical.byContradiction
    intro idle
    cases inferred.symm.trans ((Rule.infer?_eq_none_iff rule).mpr idle)
  have first : Rule.FirstApplying Rule.decomposing s rule :=
    ⟨earlier, later, order, applies, fun r before => (Rule.infer?_eq_none_iff r).mp (missed r before)⟩
  simp only [Takes, sequent, label, branches, same]
  refine ⟨(Rule.infer?_eq_none_iff .closing).mp unshared, rule, _, first, rfl, decomposes, _, rfl, ?_⟩
  simp [Function.comp_def, derive_sequent]

/-- The first step of a search is of one of the four kinds. -/
theorem exists_takes (s : Sequent) : ∃ kind, Takes (s.derive Rule.priority) kind := by
  cases found : Rule.firstInference? Rule.priority s with
  | none => exact ⟨_, takes_of_stuck found⟩
  | some i =>
    obtain ⟨earlier, rule, later, order, inferred, missed⟩ := List.findSome?_eq_some_iff.mp found
    cases earlier with
    | nil =>
      obtain rfl : Rule.closing = rule := (List.cons.inj order).1
      rcases takes_of_closing found inferred with initial | reduction
      · exact ⟨_, initial⟩
      · exact ⟨_, reduction⟩
    | cons first earlier =>
      obtain ⟨rfl, rest⟩ : Rule.closing = first ∧ Rule.decomposing = earlier ++ rule :: later :=
        List.cons.inj order
      exact ⟨_, takes_of_decomposing rest found inferred (missed _ (by simp))
        fun other before => missed other (by simp [before])⟩

/-- A variable is shared just where the step closes the sequent. -/
theorem Takes.shares_iff {n : Derivation} {kind : StepKind} (taken : n.Takes kind) :
    n.sequent.Shares ↔ kind = .initial ∨ kind = .reduction := by
  cases kind with
  | initial => simp [taken.1.shares]
  | reduction =>
    obtain ⟨_, _, v, child, leftmost, _⟩ := taken
    simp [leftmost.shares]
  | decomposition => simp [taken.1]
  | failure => simp [taken.2.1]

theorem Takes.isClosed_iff {n : Derivation} {kind : StepKind} (taken : n.Takes kind) :
    n.isClosed = true ↔ kind = .initial := by
  rw [ProofTree.isClosed_iff_branches]
  cases kind with
  | initial => simp [taken.2.2]
  | reduction =>
    obtain ⟨_, _, v, child, _, branches, _⟩ := taken
    simp [branches]
  | decomposition =>
    obtain ⟨_, rule, premises, _, _, decomposes, below, branches, sequents⟩ := taken
    have some : below ≠ [] := by
      rintro rfl
      exact decomposes.ne_nil sequents.symm
    simp [branches, some]
  | failure => simp [taken.2.2.2]

theorem Takes.isFailed_iff {n : Derivation} {kind : StepKind} (taken : n.Takes kind) :
    n.isFailed = true ↔ kind = .failure := by
  rw [ProofTree.isFailed_iff_branches]
  cases kind with
  | initial => simp [taken.2.2]
  | reduction =>
    obtain ⟨_, _, v, child, _, branches, _⟩ := taken
    simp [branches]
  | decomposition =>
    obtain ⟨_, rule, premises, _, _, _, below, branches, _⟩ := taken
    simp [branches, List.map_eq_cons_iff]
  | failure => simp [taken.2.2.2]

theorem Takes.initial_iff {n : Derivation} {kind : StepKind} (taken : n.Takes kind) :
    n.sequent.Initial ↔ kind = .initial := by
  constructor
  · intro initial
    rcases taken.shares_iff.mp initial.shares with rfl | rfl
    · rfl
    · exact (taken.1 initial).elim
  · rintro rfl
    exact taken.1

theorem Takes.flat_iff {n : Derivation} {kind : StepKind} (taken : n.Takes kind) :
    n.sequent.Flat ∧ ¬n.sequent.Shares ↔ kind = .failure := by
  constructor
  · rintro ⟨flat, unshared⟩
    cases kind with
    | failure => rfl
    | initial => exact (unshared (taken.shares_iff.mpr (.inl rfl))).elim
    | reduction => exact (unshared (taken.shares_iff.mpr (.inr rfl))).elim
    | decomposition =>
      obtain ⟨_, rule, premises, ⟨_, _, order, applies, _⟩, _⟩ := taken
      have other : rule ≠ .closing := by
        rintro rfl
        have member : Rule.closing ∈ Rule.decomposing := by simp [order]
        simp [Rule.decomposing] at member
      exact (applies.not_flat other flat).elim
  · rintro rfl
    exact ⟨taken.1, taken.2.1⟩

/-- No node can be taken for two kinds of step, because what tells the kinds apart is said of the
node alone. -/
theorem Takes.unique {n : Derivation} {kind other : StepKind} (taken : n.Takes kind)
    (also : n.Takes other) : other = kind := by
  have closed := taken.isClosed_iff.symm.trans also.isClosed_iff
  have failed := taken.isFailed_iff.symm.trans also.isFailed_iff
  have shares := taken.shares_iff.symm.trans also.shares_iff
  cases kind <;> cases other <;> simp at closed failed shares ⊢

/-- Every node of a search takes a step of exactly one kind, the one that the order of the rules
dictates. A node is closed just where its sequent is initial, and fails just where its sequent has
only variables and none of them on both sides. -/
theorem takes_of_mem_walk (s : Sequent) :
    (s.derive Rule.priority).sequent = s ∧
      ∀ n ∈ (s.derive Rule.priority).walk,
        (∃ kind, Takes n kind ∧ ∀ other, Takes n other → other = kind) ∧
          (n.isClosed = true ↔ n.sequent.Initial) ∧
          (n.isFailed = true ↔ n.sequent.Flat ∧ ¬n.sequent.Shares) := by
  refine ⟨derive_sequent _ s, fun n member => ?_⟩
  obtain ⟨kind, taken⟩ := exists_takes n.sequent
  rw [← eq_derive_of_mem_walk member] at taken
  refine ⟨⟨kind, taken, fun other also => taken.unique also⟩, ?_, ?_⟩
  · exact taken.isClosed_iff.trans taken.initial_iff.symm
  · exact taken.isFailed_iff.trans taken.flat_iff.symm

/-- One branch of `A ∨ B ⊦ A` is closed as it stands and the other fails. -/
theorem takes_at_open_branch :
    .failed ⟨[.var "B"], [.var "A"]⟩ (some "fail") ∈
      ((Sequent.mk [.disj (.var "A") (.var "B")] [.var "A"]).derive Rule.priority).walk ∧
    (Sequent.mk [.var "B"] [.var "A"]).Flat ∧ ¬(Sequent.mk [.var "B"] [.var "A"]).Shares := by
  have member : .failed ⟨[.var "B"], [.var "A"]⟩ (some "fail") ∈
      ((Sequent.mk [.disj (.var "A") (.var "B")] [.var "A"]).derive Rule.priority).walk := by
    decide +kernel
  exact ⟨member, ((takes_of_mem_walk _).2 _ member).2.2.mp rfl⟩

end Derivation

end Turnstile

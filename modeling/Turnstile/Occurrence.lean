import Turnstile.Sequent

/-! Occurrences of formulas within a sequent, each with the side on which it would stand if
the connectives around it were taken apart: a negation changes the side and the other
connectives keep it. Those on the right are positive and those on the left negative. -/
namespace Turnstile

variable {α : Type}

inductive Sequent.Occurs (s : Sequent α) : Side → Formula α → Prop where
  | member {side : Side} {a : Formula α} : a ∈ s.formulas side → Occurs s side a
  | neg {side : Side} {a : Formula α} : Occurs s side (.neg a) → Occurs s side.other a
  | conjLeft {side : Side} {a b : Formula α} : Occurs s side (.conj a b) → Occurs s side a
  | conjRight {side : Side} {a b : Formula α} : Occurs s side (.conj a b) → Occurs s side b
  | disjLeft {side : Side} {a b : Formula α} : Occurs s side (.disj a b) → Occurs s side a
  | disjRight {side : Side} {a b : Formula α} : Occurs s side (.disj a b) → Occurs s side b

namespace Formula

/-- All that occurs in a formula on a side, the formula itself first. -/
def occurrences (side : Side) : Formula α → List (Side × Formula α)
  | var n => [(side, var n)]
  | neg a => (side, neg a) :: a.occurrences side.other
  | conj a b => (side, conj a b) :: (a.occurrences side ++ b.occurrences side)
  | disj a b => (side, disj a b) :: (a.occurrences side ++ b.occurrences side)

theorem self_mem_occurrences (side : Side) (a : Formula α) : (side, a) ∈ a.occurrences side := by
  cases a <;> simp [occurrences]

/-- What occurs in something that occurs in a formula occurs in the formula. -/
theorem occurrences_subset {side other : Side} {a b : Formula α}
    (inside : (other, b) ∈ a.occurrences side) :
    b.occurrences other ⊆ a.occurrences side := by
  induction a generalizing side with
  | var n =>
    cases List.mem_singleton.mp inside
    exact List.Subset.refl _
  | neg a ih =>
    rcases List.mem_cons.mp inside with same | below
    · cases same
      exact List.Subset.refl _
    · exact List.subset_cons_of_subset _ (ih below)
  | conj a c first second | disj a c first second =>
    rcases List.mem_cons.mp inside with same | below
    · cases same
      exact List.Subset.refl _
    · rcases List.mem_append.mp below with below | below
      · exact List.subset_cons_of_subset _ (List.subset_append_of_subset_left _ (first below))
      · exact List.subset_cons_of_subset _ (List.subset_append_of_subset_right _ (second below))

end Formula

namespace Sequent

/-- All that occurs in a sequent, with its side. -/
def occurrences (s : Sequent α) : List (Side × Formula α) :=
  s.left.flatMap (Formula.occurrences .left) ++ s.right.flatMap (Formula.occurrences .right)

variable {s : Sequent α} {side : Side} {a : Formula α}

theorem mem_occurrences_iff :
    (side, a) ∈ s.occurrences ↔
      ∃ whole, ∃ b ∈ s.formulas whole, (side, a) ∈ b.occurrences whole := by
  simp only [occurrences, List.mem_append, List.mem_flatMap]
  constructor
  · rintro (here | here)
    · exact ⟨.left, here⟩
    · exact ⟨.right, here⟩
  · rintro ⟨_ | _, here⟩
    · exact .inl here
    · exact .inr here

theorem Occurs.of_mem_occurrences {whole : Side} {b : Formula α} (occurs : s.Occurs whole b)
    (inside : (side, a) ∈ b.occurrences whole) : s.Occurs side a := by
  induction b generalizing whole with
  | var n =>
    cases List.mem_singleton.mp inside
    exact occurs
  | neg b ih =>
    rcases List.mem_cons.mp inside with same | below
    · cases same
      exact occurs
    · exact ih occurs.neg below
  | conj b c first second =>
    rcases List.mem_cons.mp inside with same | below
    · cases same
      exact occurs
    · rcases List.mem_append.mp below with below | below
      · exact first occurs.conjLeft below
      · exact second occurs.conjRight below
  | disj b c first second =>
    rcases List.mem_cons.mp inside with same | below
    · cases same
      exact occurs
    · rcases List.mem_append.mp below with below | below
      · exact first occurs.disjLeft below
      · exact second occurs.disjRight below

/-- The occurrences can be listed. -/
theorem occurs_iff : s.Occurs side a ↔ (side, a) ∈ s.occurrences := by
  constructor
  · -- The occurrences in a formula hold those in each of its parts, so no step down leaves the list.
    have down {side other : Side} {b c : Formula α} (listed : (side, b) ∈ s.occurrences)
        (next : (other, c) ∈ b.occurrences side) : (other, c) ∈ s.occurrences := by
      obtain ⟨whole, d, member, inside⟩ := mem_occurrences_iff.mp listed
      exact mem_occurrences_iff.mpr ⟨whole, d, member, Formula.occurrences_subset inside next⟩
    intro occurs
    induction occurs with
    | @member side a inside =>
      exact mem_occurrences_iff.mpr ⟨side, a, inside, a.self_mem_occurrences side⟩
    | neg _ ih | conjLeft _ ih | conjRight _ ih | disjLeft _ ih | disjRight _ ih =>
      apply down ih
      simp [Formula.occurrences, Formula.self_mem_occurrences]
  · intro listed
    obtain ⟨whole, b, member, inside⟩ := mem_occurrences_iff.mp listed
    exact (Occurs.member member).of_mem_occurrences inside

instance [DecidableEq α] : Decidable (s.Occurs side a) :=
  decidable_of_iff _ occurs_iff.symm

end Sequent

end Turnstile

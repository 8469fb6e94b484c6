import Turnstile.Sequent

/-! Classical truth of formulas and sequents. It mentions no rule and no search, so it is
what their verdicts can be measured by. -/
namespace Turnstile

/-- Which variables are true. -/
abbrev Valuation := String → Bool

def Formula.holds (v : Valuation) : Formula → Bool
  | var n => v n
  | neg a => !a.holds v
  | conj a b => a.holds v && b.holds v
  | disj a b => a.holds v || b.holds v

namespace Sequent

/-- A valuation refutes a sequent if all of its left formulas are true and all of its right
ones false. -/
def RefutedBy (s : Sequent) (v : Valuation) : Prop :=
  (∀ a ∈ s.left, a.holds v = true) ∧ ∀ a ∈ s.right, a.holds v = false

/-- Whatever makes all left formulas true makes a right one true. -/
def Valid (s : Sequent) : Prop :=
  ∀ v : Valuation, (∀ a ∈ s.left, a.holds v = true) → ∃ a ∈ s.right, a.holds v = true

theorem valid_iff_not_refutedBy (s : Sequent) : s.Valid ↔ ∀ v, ¬s.RefutedBy v := by
  constructor
  · intro valid v refuted
    obtain ⟨a, member, true⟩ := valid v refuted.1
    simp [refuted.2 a member] at true
  · intro none v left
    apply Classical.byContradiction
    intro absent
    refine none v ⟨left, fun a member => ?_⟩
    cases holds : a.holds v
    · rfl
    · exact absurd ⟨a, member, holds⟩ absent

end Sequent

end Turnstile

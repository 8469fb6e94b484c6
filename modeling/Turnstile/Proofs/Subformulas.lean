import Turnstile.Occurrence
import Turnstile.Proofs.Derivation

/-! What a search can meet. An inference only takes formulas apart, so all that stands in a sequent
of the tree occurs in the sequent at its root, on the side that it stands on. No name is ever
added. -/
namespace Turnstile.Sequent

variable {α : Type} {s p : Sequent α}

namespace Occurs

variable {side : Side} {a : Formula α}

/-- What occurs in a sequent that is made of formulas of another occurs in the other. -/
theorem trans (parts : ∀ side, ∀ a ∈ p.formulas side, s.Occurs side a)
    (occurs : p.Occurs side a) : s.Occurs side a := by
  induction occurs with
  | member inside => exact parts _ _ inside
  | neg _ ih => exact ih.neg
  | conjLeft _ ih => exact ih.conjLeft
  | conjRight _ ih => exact ih.conjRight
  | disjLeft _ ih => exact ih.disjLeft
  | disjRight _ ih => exact ih.disjRight

theorem formula {p : Formula.Place α} (parts : s.formulas side = p.put [p.formula]) :
    s.Occurs side p.formula := by
  apply member
  simp [parts, Formula.Place.put]

theorem put (side : Side) {p : Formula.Place α} {others : List (Formula α)}
    (parts : s.formulas side = p.put [p.formula]) (new : ∀ b ∈ others, s.Occurs side b)
    (inside : a ∈ p.put others) : s.Occurs side a := by
  simp only [Formula.Place.put, List.mem_append] at inside
  rcases inside with (before | other) | after
  · apply member
    simp [parts, Formula.Place.put, before]
  · exact new a other
  · apply member
    simp [parts, Formula.Place.put, after]

theorem append {b : Formula α} (new : s.Occurs side b) (inside : a ∈ s.formulas side ++ [b]) :
    s.Occurs side a := by
  rcases List.mem_append.mp inside with old | last
  · exact .member old
  · rwa [List.mem_singleton.mp last]

theorem name_mem {n : α} (occurs : s.Occurs side a) (named : n ∈ a.names) : n ∈ s.names := by
  induction occurs with
  | @member side a inside =>
    cases side with
    | left => exact List.mem_append_left _ (List.mem_flatMap.mpr ⟨a, inside, named⟩)
    | right => exact List.mem_append_right _ (List.mem_flatMap.mpr ⟨a, inside, named⟩)
  | neg _ ih => exact ih named
  | conjLeft _ ih | disjLeft _ ih => exact ih (List.mem_append_left _ named)
  | conjRight _ ih | disjRight _ ih => exact ih (List.mem_append_right _ named)

end Occurs

/-- A sequent that is made of formulas of another has no other names. -/
theorem names_subset (parts : ∀ side, ∀ a ∈ p.formulas side, s.Occurs side a) :
    p.names ⊆ s.names := by
  intro n named
  rcases List.mem_append.mp named with inLeft | inRight
  · obtain ⟨a, inside, name⟩ := List.mem_flatMap.mp inLeft
    exact (parts .left a inside).name_mem name
  · obtain ⟨a, inside, name⟩ := List.mem_flatMap.mp inRight
    exact (parts .right a inside).name_mem name

theorem closingPremises_occurs {v w : α} (left : .var v ∈ s.left) (right : .var w ∈ s.right)
    (premise : p ∈ (Rule.closingPremises s v w).toList) {side : Side} {a : Formula α}
    (inside : a ∈ p.formulas side) : s.Occurs side a := by
  unfold Rule.closingPremises at premise
  split at premise
  · cases premise
  · obtain rfl := List.mem_singleton.mp premise
    cases side with
    | left =>
      obtain rfl := List.mem_singleton.mp inside
      exact .member left
    | right =>
      obtain rfl := List.mem_singleton.mp inside
      exact .member right

theorem leftPremises_occurs {place : Formula.Place α} (parts : s.left = place.put [place.formula])
    (premise : p ∈ (Rule.leftPremises place s.right).toList) {side : Side} {a : Formula α}
    (inside : a ∈ p.formulas side) : s.Occurs side a := by
  have whole : s.Occurs .left place.formula := .formula parts
  obtain ⟨before, formula, after⟩ := place
  cases formula with
  | var v => cases premise
  | neg b =>
    obtain rfl := List.mem_singleton.mp premise
    cases side with
    | left => exact .put .left parts (by simp) inside
    | right => exact .append whole.neg inside
  | conj b c =>
    obtain rfl := List.mem_singleton.mp premise
    cases side with
    | left => exact .put .left parts (by simp [whole.conjLeft, whole.conjRight]) inside
    | right => exact .member inside
  | disj b c =>
    simp only [Rule.leftPremises, Premises.toList, List.mem_cons, List.not_mem_nil,
      or_false] at premise
    rcases premise with rfl | rfl
    · cases side with
      | left => exact .put .left parts (by simp [whole.disjLeft]) inside
      | right => exact .member inside
    · cases side with
      | left => exact .put .left parts (by simp [whole.disjRight]) inside
      | right => exact .member inside

theorem rightPremises_occurs {place : Formula.Place α} (parts : s.right = place.put [place.formula])
    (premise : p ∈ (Rule.rightPremises s.left place).toList) {side : Side} {a : Formula α}
    (inside : a ∈ p.formulas side) : s.Occurs side a := by
  have whole : s.Occurs .right place.formula := .formula parts
  obtain ⟨before, formula, after⟩ := place
  cases formula with
  | var v => cases premise
  | neg b =>
    obtain rfl := List.mem_singleton.mp premise
    cases side with
    | left => exact .append whole.neg inside
    | right => exact .put .right parts (by simp) inside
  | disj b c =>
    obtain rfl := List.mem_singleton.mp premise
    cases side with
    | left => exact .member inside
    | right => exact .put .right parts (by simp [whole.disjLeft, whole.disjRight]) inside
  | conj b c =>
    simp only [Rule.rightPremises, Premises.toList, List.mem_cons, List.not_mem_nil,
      or_false] at premise
    rcases premise with rfl | rfl
    · cases side with
      | left => exact .member inside
      | right => exact .put .right parts (by simp [whole.conjLeft]) inside
    · cases side with
      | left => exact .member inside
      | right => exact .put .right parts (by simp [whole.conjRight]) inside

/-- A step of the search only takes formulas apart. -/
theorem Reduces.occurs [Name α] {premises : Premises α} (step : s.Reduces premises)
    (premise : p ∈ premises.toList) (side : Side) (a : Formula α) (inside : a ∈ p.formulas side) :
    s.Occurs side a := by
  cases step with
  | closing left right _ => exact closingPremises_occurs left right premise inside
  | left parts _ => exact leftPremises_occurs parts premise inside
  | right parts _ => exact rightPremises_occurs parts premise inside

/-- Whatever stands in a tree occurs in the sequent that the search has started from. -/
theorem occurs_of_mem_walk [Name α] (rules : List Rule) (s : Sequent α) {node : Derivation α}
    (member : node ∈ (s.derive rules).walk) (side : Side) {a : Formula α}
    (inside : a ∈ node.sequent.formulas side) : s.Occurs side a := by
  fun_induction derive rules s generalizing side a with
  | case1 s stuck =>
    obtain rfl := List.mem_singleton.mp member
    exact .member inside
  | case2 s rule principal inferred =>
    obtain rfl := List.mem_singleton.mp member
    exact .member inside
  | case3 s rule p principal inferred ih =>
    have step := Rule.firstInference?_reduces inferred
    rcases List.mem_cons.mp member with rfl | below
    · exact .member inside
    · exact .trans (step.occurs (by simp [Premises.toList])) (ih below _ inside)
  | case4 s rule p q principal inferred first second =>
    have step := Rule.firstInference?_reduces inferred
    rcases List.mem_cons.mp member with rfl | below
    · exact .member inside
    · rcases List.mem_append.mp below with left | right
      · exact .trans (step.occurs (by simp [Premises.toList])) (first left _ inside)
      · exact .trans (step.occurs (by simp [Premises.toList])) (second right _ inside)

theorem names_of_mem_walk [Name α] (rules : List Rule) (s : Sequent α) {node : Derivation α}
    (member : node ∈ (s.derive rules).walk) {n : α} (named : n ∈ node.sequent.names) :
    n ∈ s.names :=
  names_subset (fun side _ inside => occurs_of_mem_walk rules s member side inside) named

/-- In every sequent of a search all that stands on the right occurs positively in the sequent that
the search has started from, and all that stands on the left negatively. No variable is new. -/
theorem polarity_of_mem_walk (rules : List Rule) (s : Sequent) :
    ∀ node ∈ (s.derive rules).walk,
      (∀ a ∈ node.sequent.right, s.Occurs .right a) ∧
        (∀ a ∈ node.sequent.left, s.Occurs .left a) ∧ node.sequent.names ⊆ s.names := by
  intro node member
  have occurs (side : Side) (a : Formula) (inside : a ∈ node.sequent.formulas side) :
      s.Occurs side a := occurs_of_mem_walk rules s member side inside
  exact ⟨occurs .right, occurs .left, names_subset occurs⟩

/-- Under two negations `B` is back on the left, and it stands on no right. -/
theorem polarity_under_two_negations :
    .failed ⟨[.var "B"], [.var "C"]⟩ (some "fail") ∈
      ((Sequent.mk [.neg (.conj (.var "A") (.neg (.var "B")))] [.var "C"]).derive
        Rule.priority).walk ∧
    (Sequent.mk [.neg (.conj (.var "A") (.neg (.var "B")))] [.var "C"]).Occurs .left (.var "B") ∧
    ¬(Sequent.mk [.neg (.conj (.var "A") (.neg (.var "B")))] [.var "C"]).Occurs .right
      (.var "B") := by
  have member : .failed ⟨[.var "B"], [.var "C"]⟩ (some "fail") ∈
      ((Sequent.mk [.neg (.conj (.var "A") (.neg (.var "B")))] [.var "C"]).derive
        Rule.priority).walk := by
    decide +kernel
  refine ⟨member, ?_, by decide⟩
  exact (polarity_of_mem_walk _ _ _ member).2.1 _ (List.mem_singleton.mpr rfl)

end Turnstile.Sequent

import Mathlib.Algebra.Ring.Nat
import Turnstile.Proofs.Outline
import Turnstile.Proofs.Termination

/-! What can be asked of a tree, and how the answers hang together. A node has two subtrees, one, or
none, and where it has none the branch is closed or failed; so each question is answered by the
answers for the subtrees, whichever sequents and labels the tree carries. Outlines are asked for
their lines here, by whatever characters are taken to break a line. -/
namespace Turnstile

/-- Joined lines come apart again wherever a line feed breaks a line and no line is broken. -/
theorem Text.splitOnP_joinedLines {isBreak : Char → Bool} (feed : isBreak '\n' = true)
    {lines : List String} (nonempty : lines ≠ [])
    (unbroken : ∀ line ∈ lines, ∀ c ∈ line.toList, isBreak c = false) :
    ("\n".intercalate lines).toList.splitOnP isBreak = lines.map (·.toList) := by
  induction lines with
  | nil => contradiction
  | cons line lines ih =>
    obtain ⟨first, others⟩ := List.forall_mem_cons.mp unbroken
    cases lines with
    | nil => simpa using List.splitOnP_eq_singleton first
    | cons next lines =>
      have parts : ("\n".intercalate (line :: next :: lines)).toList =
          line.toList ++ '\n' :: ("\n".intercalate (next :: lines)).toList := by
        simp [String.intercalate_cons_cons]
      rw [parts, List.splitOnP_append_cons_of_forall_mem first _ feed, ih (by simp) others]
      rfl

namespace ProofTree

variable {σ ρ : Type}

@[simp]
theorem leaves_closed (s : σ) (l : ρ) : (closed s l).leaves = [closed s l] := rfl

@[simp]
theorem leaves_failed (s : σ) (l : ρ) : (failed s l).leaves = [failed s l] := rfl

@[simp]
theorem leaves_single (s : σ) (l : ρ) (t : ProofTree σ ρ) : (single s l t).leaves = t.leaves := by
  simp [leaves, walk, isClosed, isFailed]

@[simp]
theorem leaves_double (s : σ) (l : ρ) (t u : ProofTree σ ρ) :
    (double s l t u).leaves = t.leaves ++ u.leaves := by
  simp [leaves, walk, isClosed, isFailed]

theorem isProved_iff_leaves (t : ProofTree σ ρ) :
    t.isProved = true ↔ ∀ n ∈ t.leaves, n.isClosed = true := by
  induction t with
  | closed s l => simp [isProved, isClosed]
  | failed s l => simp [isProved, isClosed]
  | single s l t ih => simpa [isProved] using ih
  | double s l t u first second =>
    rw [leaves_double, List.forall_mem_append, ← first, ← second, isProved, Bool.and_eq_true]

/-- Every branch ends in a leaf, and a node with two subtrees makes two branches of one. -/
theorem length_leaves (t : ProofTree σ ρ) :
    t.leaves.length = 1 + t.walk.countP fun n => n.width == 2 := by
  induction t with
  | closed s l => rfl
  | failed s l => rfl
  | single s l t ih => simpa [walk, width] using ih
  | double s l t u first second =>
    rw [leaves_double, List.length_append, first, second]
    simp only [walk, width, List.countP_cons, List.countP_append, beq_self_eq_true, if_true]
    omega

theorem depth_le_size (t : ProofTree σ ρ) : t.depth ≤ t.size := by
  induction t with
  | closed s l => exact Nat.le_refl 1
  | failed s l => exact Nat.le_refl 1
  | single s l t ih =>
    rw [depth, size_single]
    omega
  | double s l t u first second =>
    rw [depth, size_double]
    omega

/-- No level holds more than twice the nodes of the level above it. -/
theorem size_lt_two_pow (t : ProofTree σ ρ) : t.size < 2 ^ t.depth := by
  induction t with
  | closed s l => exact Nat.lt_two_pow_self
  | failed s l => exact Nat.lt_two_pow_self
  | single s l t ih =>
    rw [depth, size_single, Nat.pow_succ]
    omega
  | double s l t u first second =>
    have left : 2 ^ t.depth ≤ 2 ^ max t.depth u.depth :=
      Nat.pow_le_pow_right (by decide) (Nat.le_max_left _ _)
    have right : 2 ^ u.depth ≤ 2 ^ max t.depth u.depth :=
      Nat.pow_le_pow_right (by decide) (Nat.le_max_right _ _)
    rw [depth, size_double, Nat.pow_succ]
    omega

section Outline

variable (text : σ → String)

/-- An outline has a line for every node, and one more for every failure. -/
theorem length_outlineLines (shown : ρ → Option String) (t : ProofTree σ ρ) (level : Nat) :
    ((t.map text id).outlineLines shown level).length = t.size + t.failedSequents.length := by
  induction t generalizing level with
  | closed s l => rfl
  | failed s l => rfl
  | single s l t ih =>
    rw [map, outlineLines, List.length_cons, ih, size_single, failedSequents_single]
    omega
  | double s l t u first second =>
    rw [map, outlineLines, List.length_cons, List.length_append, first, second, size_double,
      failedSequents_double, List.length_append]
    omega

/-- An outline without labels breaks into the lines that it was joined from, wherever neither its
sequents nor its own decoration break a line. -/
theorem splitOnP_outline {isBreak : Char → Bool} (feed : isBreak '\n' = true)
    (plain : ∀ c ∈ decoration, isBreak c = false) {t : ProofTree σ ρ}
    (unbroken : ∀ n ∈ t.walk, ∀ c ∈ (text n.sequent).toList, isBreak c = false) :
    ((t.map text id).outline fun _ => none).toList.splitOnP isBreak =
      ((t.map text id).outlineLines (fun _ => none) 0).map (·.toList) := by
  apply Text.splitOnP_joinedLines feed
  · cases t <;> simp [map, outlineLines]
  · intro line member c inside
    refine Bool.eq_false_iff.mpr fun breaks => ?_
    have other : c ∉ decoration := by
      intro decorative
      cases breaks.symm.trans (plain c decorative)
    refine not_mem_outlineLines other ?_ 0 line member inside
    intro n below
    rw [walk_map] at below
    obtain ⟨m, here, rfl⟩ := List.mem_map.mp below
    refine ⟨?_, by simp⟩
    rw [sequent_map]
    intro shown
    cases breaks.symm.trans (unbroken m here c shown)

end Outline

/-- Whatever a tree carries, it is a proof exactly if no sequent failed, and exactly if all its
leaves are closed. It has one leaf more than nodes with two subtrees. There are at least as many
nodes as levels, and fewer than two to the power of their number. And whichever characters break a
line, the line feed among them but nothing that an outline is decorated with: if no sequent is
broken, the outline has as many lines as there are nodes and failures. -/
theorem queries_consistent (t : ProofTree σ ρ) (text : σ → String) :
    (t.isProved = true ↔ t.failedSequents = []) ∧
    (t.isProved = true ↔ ∀ n ∈ t.leaves, n.isClosed = true) ∧
    t.leaves.length = 1 + t.walk.countP (fun n => n.width == 2) ∧
    t.depth ≤ t.size ∧ t.size ≤ 2 ^ t.depth - 1 ∧
    ∀ isBreak : Char → Bool, isBreak '\n' = true → (∀ c ∈ decoration, isBreak c = false) →
      (∀ n ∈ t.walk, ∀ c ∈ (text n.sequent).toList, isBreak c = false) →
        (((t.map text id).outline fun _ => none).toList.splitOnP isBreak).length =
          t.size + t.failedSequents.length := by
  refine ⟨t.isProved_iff_failedSequents, t.isProved_iff_leaves, t.length_leaves, t.depth_le_size,
    Nat.le_sub_one_of_lt t.size_lt_two_pow, ?_⟩
  intro isBreak feed plain unbroken
  rw [splitOnP_outline text feed plain unbroken, List.length_map, length_outlineLines]

/-- A tree that no search returns: one branch repeats its sequent before it is closed, the other
fails. Its four nodes and one failure make five lines. -/
theorem queries_of_repeated_sequent :
    ∃ t : Derivation,
      t = .double ⟨[.disj (.var "A") (.var "B")], [.var "A"]⟩ none
        (.single ⟨[.var "A"], [.var "A"]⟩ none (.closed ⟨[.var "A"], [.var "A"]⟩ (some "axiom")))
        (.failed ⟨[.var "B"], [.var "A"]⟩ (some "fail")) ∧
      (∀ n ∈ t.walk, '\n' ∉ n.sequent.text.toList) ∧
      (((t.map Sequent.text id).outline fun _ => none).toList.splitOnP (· == '\n')).length = 5 := by
  have lines (t : Derivation) (absent : ∀ n ∈ t.walk, '\n' ∉ n.sequent.text.toList) := by
    refine (queries_consistent t Sequent.text).2.2.2.2.2 (· == '\n') rfl (by simp [decoration]) ?_
    intro n member c inside
    exact beq_eq_false_iff_ne.mpr fun feed => absent n member (feed ▸ inside)
  exact ⟨_, rfl, by decide +kernel, lines _ (by decide +kernel)⟩

end ProofTree

end Turnstile

import Turnstile.Glyphs
import Turnstile.ProofTree
import Turnstile.Rule

/-! Backward search. At every sequent the first rule that applies decides the step, and the
search goes on with all its premises; where none applies the branch fails.

Nothing here bounds the depth of a recursion. A program whose stack ends gives up on sequents
that nest deeper than that; the search answers for these too. -/
namespace Turnstile

/-- A finished search: sequents with the names of the rules applied to them. -/
abbrev Derivation (α : Type := String) := ProofTree (Sequent α) (Option String)

namespace Derivation

def failLabel : Option String :=
  some "fail"

end Derivation

namespace Sequent

variable {α : Type} [Name α]

def derive (rules : List Rule) (s : Sequent α) : Derivation α :=
  match _inferred : Rule.firstInference? rules s with
  | none => .failed s Derivation.failLabel
  | some ⟨rule, .none, _⟩ => .closed s (some rule.name)
  | some ⟨rule, .one p, _⟩ => .single s (some rule.name) (derive rules p)
  | some ⟨rule, .two p q, _⟩ => .double s (some rule.name) (derive rules p) (derive rules q)
termination_by s.weight
decreasing_by
  all_goals exact Rule.firstInference?_weight ‹_› (by simp [Premises.toList])

/-- The search with every node checked when it is put together from what its premises return. -/
def guardedDerive (rules : List Rule) (s : Sequent α) :
    Except ProofTree.ShapeError (Derivation α) :=
  match _inferred : Rule.firstInference? rules s with
  | none => ProofTree.ofBranches s Derivation.failLabel [.fail]
  | some i => do
    let below ← i.premises.toList.attach.mapM fun p => guardedDerive rules p.val
    ProofTree.ofBranches s (some i.rule.name) (below.map .tree)
termination_by s.weight
decreasing_by exact Rule.firstInference?_weight ‹_› p.property

theorem guardedDerive_of_inference {rules : List Rule} {s : Sequent α} {i : Inference α}
    (inferred : Rule.firstInference? rules s = some i) :
    guardedDerive rules s =
      i.premises.toList.mapM (guardedDerive rules) >>= fun below =>
        ProofTree.ofBranches s (some i.rule.name) (below.map .tree) := by
  rw [guardedDerive]
  split <;> cases inferred.symm.trans ‹_›
  rw [List.mapM_subtype (g := guardedDerive rules) fun _ _ => rfl, List.unattach_attach]

/-- No search puts things below one node that cannot stand there together. -/
theorem guardedDerive_eq (rules : List Rule) (s : Sequent α) :
    guardedDerive rules s = .ok (derive rules s) := by
  fun_induction derive rules s with
  | case1 s stuck =>
    rw [guardedDerive]
    split <;> cases stuck.symm.trans ‹_›
    rfl
  | case2 s rule principal inferred =>
    rw [guardedDerive_of_inference inferred]
    rfl
  | case3 s rule p principal inferred ih =>
    rw [guardedDerive_of_inference inferred, Premises.toList, List.mapM_cons, ih]
    rfl
  | case4 s rule p q principal inferred first second =>
    rw [guardedDerive_of_inference inferred, Premises.toList, List.mapM_cons, List.mapM_cons,
      first, second]
    rfl

end Sequent

/-- A step of a search: the rule applied to a sequent, or none if no rule applies. -/
structure Step (α : Type := String) where
  depth : Nat
  sequent : Sequent α
  rule : Option Rule
  deriving DecidableEq, Repr

/-- A line on a step, given the text of its sequent. -/
def stepLine (depth : Nat) (rule : Option Rule) (text : String) : String :=
  String.ofList (List.replicate (2 * depth) ' ') ++ text ++
    match rule with
    | some rule => " by " ++ rule.name
    | none => " fails"

def Step.line (s : Step) : String :=
  stepLine s.depth s.rule s.sequent.text

namespace Sequent

/-- The steps of a search, in the order in which it takes them. -/
def steps {α : Type} [Name α] (rules : List Rule) (depth : Nat) (s : Sequent α) : List (Step α) :=
  match _inferred : Rule.firstInference? rules s with
  | none => [⟨depth, s, none⟩]
  | some ⟨rule, .none, _⟩ => [⟨depth, s, some rule⟩]
  | some ⟨rule, .one p, _⟩ => ⟨depth, s, some rule⟩ :: steps rules (depth + 1) p
  | some ⟨rule, .two p q, _⟩ =>
    ⟨depth, s, some rule⟩ :: (steps rules (depth + 1) p ++ steps rules (depth + 1) q)
termination_by s.weight
decreasing_by
  all_goals exact Rule.firstInference?_weight ‹_› (by simp [Premises.toList])

end Sequent

def openingLine (text : String) : String :=
  "Proof search: " ++ text

def verdictLine {σ ρ : Type} (t : ProofTree σ ρ) : String :=
  "Result: " ++ (if t.isProved then "proved" else "not proved") ++
    " (" ++ toString t.size ++ " nodes, depth " ++ toString t.depth ++ ")"

/-- The full report of a search. -/
def Sequent.searchLog (rules : List Rule) (s : Sequent) : List String :=
  openingLine s.text :: (s.steps rules 0).map Step.line ++ [verdictLine (s.derive rules)]

end Turnstile

import Turnstile.Log
import Turnstile.Search

/-! The search as a run that leaves records behind. A step is put on record when it is taken, before
the search goes on with its premises, so the records are made while there is no tree yet. -/
namespace Turnstile

/-- A part of the program that adds to the records made so far. -/
abbrev Logged :=
  StateM (List LogRecord)

namespace Logged

def emit (source : LogSource) (message : String) : Logged Unit :=
  modify (· ++ [⟨source, message⟩])

theorem run_bind {τ υ : Type} (action : Logged τ) (next : τ → Logged υ) (log : List LogRecord) :
    (action >>= next).run log = (next (action.run log).1).run (action.run log).2 := rfl

theorem run_emit (source : LogSource) (message : String) (log : List LogRecord) :
    (emit source message).run log = ((), log ++ [⟨source, message⟩]) := rfl

theorem run_pure {τ : Type} (result : τ) (log : List LogRecord) :
    (pure result : Logged τ).run log = (result, log) := rfl

end Logged

def Step.report (step : Step) : Logged Unit :=
  .emit .search step.line

namespace Sequent

def loggedDerive (rules : List Rule) (depth : Nat) (s : Sequent) : Logged Derivation :=
  match _inferred : Rule.firstInference? rules s with
  | none => do
    Step.report ⟨depth, s, none⟩
    return .failed s Derivation.failLabel
  | some ⟨rule, .none, _⟩ => do
    Step.report ⟨depth, s, some rule⟩
    return .closed s (some rule.name)
  | some ⟨rule, .one p, _⟩ => do
    Step.report ⟨depth, s, some rule⟩
    let below ← loggedDerive rules (depth + 1) p
    return .single s (some rule.name) below
  | some ⟨rule, .two p q, _⟩ => do
    Step.report ⟨depth, s, some rule⟩
    let first ← loggedDerive rules (depth + 1) p
    let second ← loggedDerive rules (depth + 1) q
    return .double s (some rule.name) first second
termination_by s.weight
decreasing_by
  all_goals exact Rule.firstInference?_weight ‹_› (by simp [Premises.toList])

/-- Searches for a proof, with a record before the first step and one on the finished tree. -/
def prove (rules : List Rule) (s : Sequent) : Logged Derivation := do
  Logged.emit .search (openingLine s.text)
  let root ← s.loggedDerive rules 0
  Logged.emit .search (verdictLine root)
  return root

theorem steps_of_stuck {rules : List Rule} {s : Sequent}
    (stuck : Rule.firstInference? rules s = none) (depth : Nat) :
    s.steps rules depth = [⟨depth, s, none⟩] := by
  rw [steps]
  split <;> cases stuck.symm.trans ‹_›
  rfl

theorem steps_of_inference {rules : List Rule} {s : Sequent} {i : Inference}
    (inferred : Rule.firstInference? rules s = some i) (depth : Nat) :
    s.steps rules depth =
      ⟨depth, s, some i.rule⟩ :: i.premises.toList.flatMap (steps rules (depth + 1)) := by
  rw [steps]
  split <;> cases inferred.symm.trans ‹_› <;> simp [Premises.toList]

/-- The run returns the tree of the search and records its steps in their order. -/
theorem run_loggedDerive (rules : List Rule) (depth : Nat) (s : Sequent) (log : List LogRecord) :
    (s.loggedDerive rules depth).run log =
      (s.derive rules, log ++ (s.steps rules depth).map fun step => ⟨.search, step.line⟩) := by
  fun_induction derive rules s generalizing depth log with
  | case1 s stuck =>
    rw [loggedDerive, steps_of_stuck stuck]
    split <;> cases stuck.symm.trans ‹_›
    rfl
  | case2 s rule principal inferred =>
    rw [loggedDerive, steps_of_inference inferred]
    split <;> cases inferred.symm.trans ‹_›
    rfl
  | case3 s rule p principal inferred ih =>
    rw [loggedDerive, steps_of_inference inferred]
    split <;> cases inferred.symm.trans ‹_›
    simp only [Logged.run_bind, Step.report, Logged.run_emit, Logged.run_pure, ih]
    simp [Premises.toList]
  | case4 s rule p q principal inferred first second =>
    rw [loggedDerive, steps_of_inference inferred]
    split <;> cases inferred.symm.trans ‹_›
    simp only [Logged.run_bind, Step.report, Logged.run_emit, Logged.run_pure, first, second]
    simp [Premises.toList]

theorem run_prove (rules : List Rule) (s : Sequent) (log : List LogRecord) :
    (s.prove rules).run log =
      (s.derive rules, log ++ (s.searchLog rules).map fun line => ⟨.search, line⟩) := by
  rw [prove]
  simp only [Logged.run_bind, Logged.run_emit, Logged.run_pure, run_loggedDerive]
  simp [searchLog, Function.comp_def]

end Sequent

end Turnstile

import Turnstile.Search.Logged

/-! The records of a search and the tree that it returns. Records are made on the way down, one step
after the other, and the tree is put together on the way back; yet the steps are the nodes of the
tree, in the order of a walk and on the levels where they stand. What the last record says of the
tree can therefore be read off the records before it. -/
namespace Turnstile

namespace ProofTree

variable {σ ρ : Type}

/-- A walk that keeps count of the level on which each node stands. -/
def visits (level : Nat) : ProofTree σ ρ → List (Nat × ProofTree σ ρ)
  | closed s l => [(level, closed s l)]
  | failed s l => [(level, failed s l)]
  | single s l t => (level, single s l t) :: t.visits (level + 1)
  | double s l t u => (level, double s l t u) :: (t.visits (level + 1) ++ u.visits (level + 1))

theorem map_snd_visits (t : ProofTree σ ρ) (level : Nat) :
    (t.visits level).map Prod.snd = t.walk := by
  induction t generalizing level with
  | closed s l => rfl
  | failed s l => rfl
  | single s l t ih => simp [visits, walk, ih]
  | double s l t u first second => simp [visits, walk, first, second]

theorem length_visits (t : ProofTree σ ρ) (level : Nat) : (t.visits level).length = t.size := by
  rw [size, ← map_snd_visits t level, List.length_map]

theorem lt_of_mem_visits {t : ProofTree σ ρ} {level : Nat} {v : Nat × ProofTree σ ρ}
    (member : v ∈ t.visits level) : v.1 < level + t.depth := by
  induction t generalizing level with
  | closed s l | failed s l =>
    rw [List.mem_singleton.mp member]
    exact Nat.lt_succ_self level
  | single s l t ih =>
    rw [depth]
    rcases List.mem_cons.mp member with rfl | below
    · exact Nat.lt_add_of_pos_right (Nat.succ_pos _)
    · have bound := ih below
      omega
  | double s l t u first second =>
    rw [depth]
    rcases List.mem_cons.mp member with rfl | below
    · exact Nat.lt_add_of_pos_right (Nat.succ_pos _)
    · rcases List.mem_append.mp below with below | below
      · have bound := first below
        omega
      · have bound := second below
        omega

/-- Some node stands at the end of a longest branch. -/
theorem exists_deepest (t : ProofTree σ ρ) (level : Nat) :
    ∃ v ∈ t.visits level, v.1 + 1 = level + t.depth := by
  induction t generalizing level with
  | closed s l | failed s l => exact ⟨_, List.mem_singleton_self _, rfl⟩
  | single s l t ih =>
    obtain ⟨v, member, deepest⟩ := ih (level + 1)
    refine ⟨v, List.mem_cons_of_mem _ member, ?_⟩
    rw [depth]
    omega
  | double s l t u first second =>
    obtain ⟨v, inFirst, firstDeepest⟩ := first (level + 1)
    obtain ⟨w, inSecond, secondDeepest⟩ := second (level + 1)
    rw [depth]
    by_cases deeper : u.depth ≤ t.depth
    · refine ⟨v, List.mem_cons_of_mem _ (List.mem_append_left _ inFirst), ?_⟩
      omega
    · refine ⟨w, List.mem_cons_of_mem _ (List.mem_append_right _ inSecond), ?_⟩
      omega

theorem exists_max_level (t : ProofTree σ ρ) :
    ∃ top, ((t.visits 0).map Prod.fst).max? = some top ∧ t.depth = top + 1 := by
  obtain ⟨v, member, deepest⟩ := t.exists_deepest 0
  refine ⟨v.1, List.max?_eq_some_iff.mpr ⟨List.mem_map_of_mem member, ?_⟩, by omega⟩
  intro level inside
  obtain ⟨w, other, rfl⟩ := List.mem_map.mp inside
  have bound := lt_of_mem_visits other
  omega

end ProofTree

/-- The line on a node, by the level on which it stands, its sequent and its label. Failures are
called so, and have no rule to be named. -/
def Derivation.line? (level : Nat) (n : Derivation) : Option String :=
  (if n.isFailed then some " fails" else n.label.map (" by " ++ ·)).map fun ending =>
    String.ofList (List.replicate (2 * level) ' ') ++ n.sequent.text ++ ending

namespace Step

/-- Whether a line reports a failure. -/
def saysFailure (line : String) : Bool :=
  " fails".toList.isSuffixOf line.toList

theorem toList_suffix_append (text ending : String) : ending.toList <:+ (text ++ ending).toList :=
  ⟨text.toList, String.toList_append.symm⟩

/-- Whatever a sequent looks like, its line ends like a failure only if it is one. -/
theorem saysFailure_line (step : Step) : saysFailure step.line = step.rule.isNone := by
  obtain ⟨depth, sequent, rule⟩ := step
  cases rule with
  | none => exact List.isSuffixOf_iff_suffix.mpr (toList_suffix_append _ _)
  | some rule =>
    have ends : (" by " ++ rule.name).toList <:+ (line ⟨depth, sequent, some rule⟩).toList :=
      toList_suffix_append _ _
    have longer : " fails".toList.length ≤ (" by " ++ rule.name).toList.length := by
      cases rule <;> decide
    have other : ¬" fails".toList <:+ (" by " ++ rule.name).toList := by
      cases rule <;> decide
    refine Bool.eq_false_iff.mpr fun failure => other ?_
    exact List.suffix_of_suffix_length_le (List.isSuffixOf_iff_suffix.mp failure) ends longer

end Step

namespace Sequent

/-- A search takes its steps at the nodes of its tree, in the order of a walk. -/
theorem map_line_steps (rules : List Rule) (s : Sequent) (level : Nat) :
    ((s.derive rules).visits level).map (fun v => Derivation.line? v.1 v.2) =
      ((s.steps rules level).map Step.line).map some := by
  fun_induction derive rules s generalizing level with
  | case1 s stuck =>
    rw [steps_of_stuck stuck]
    rfl
  | case2 s rule principal inferred =>
    rw [steps_of_inference inferred]
    rfl
  | case3 s rule p principal inferred ih =>
    rw [steps_of_inference inferred, ProofTree.visits, List.map_cons, ih]
    simp only [Premises.toList, List.flatMap_cons, List.flatMap_nil, List.append_nil, List.map_cons]
    rfl
  | case4 s rule p q principal inferred first second =>
    rw [steps_of_inference inferred, ProofTree.visits, List.map_cons, List.map_append, first, second]
    simp only [Premises.toList, List.flatMap_cons, List.flatMap_nil, List.append_nil, List.map_cons,
      List.map_append]
    rfl

/-- A tree is no proof just if some step of the search fails. -/
theorem any_stuck_steps (rules : List Rule) (s : Sequent) (level : Nat) :
    (s.steps rules level).any (·.rule.isNone) = !(s.derive rules).isProved := by
  fun_induction derive rules s generalizing level with
  | case1 s stuck => simp [steps_of_stuck stuck, ProofTree.isProved]
  | case2 s rule principal inferred =>
    simp [steps_of_inference inferred, Premises.toList, ProofTree.isProved]
  | case3 s rule p principal inferred ih =>
    simp [steps_of_inference inferred, Premises.toList, ProofTree.isProved, ih]
  | case4 s rule p q principal inferred first second =>
    simp [steps_of_inference inferred, Premises.toList, ProofTree.isProved, first, second]

theorem any_saysFailure (rules : List Rule) (s : Sequent) :
    ((s.steps rules 0).map Step.line).any Step.saysFailure = !(s.derive rules).isProved := by
  rw [← any_stuck_steps rules s 0, List.any_map]
  exact congrArg _ (funext Step.saysFailure_line)

/-- A search puts on record what it sets out to prove; then its steps, which are the nodes of the
tree that it returns, in the order of a walk, each indented by its level; and at last whether no step
failed, how many there were and how many levels they took. -/
theorem prove_records (rules : List Rule) (s : Sequent) (earlier : List LogRecord) :
    ∃ root lines top,
      (s.prove rules).run earlier =
        (root, earlier ++
          (["Proof search: " ++ s.text] ++ lines ++
            ["Result: " ++ (if lines.any Step.saysFailure then "not proved" else "proved") ++ " (" ++
              toString lines.length ++ " nodes, depth " ++ toString (top + 1) ++ ")"]).map
            (LogRecord.mk .search)) ∧
      root = s.derive rules ∧
      (root.visits 0).map (fun v => Derivation.line? v.1 v.2) = lines.map some ∧
      (root.visits 0).map Prod.snd = root.walk ∧
      ((root.visits 0).map Prod.fst).max? = some top := by
  obtain ⟨top, deepest, depth⟩ := (s.derive rules).exists_max_level
  have lines := map_line_steps rules s 0
  have count : ((s.steps rules 0).map Step.line).length = (s.derive rules).size := by
    have lengths := congrArg List.length lines
    simpa only [List.length_map, ProofTree.length_visits] using lengths.symm
  have verdict : (if ((s.steps rules 0).map Step.line).any Step.saysFailure then "not proved"
      else "proved") = if (s.derive rules).isProved then "proved" else "not proved" := by
    rw [any_saysFailure]
    cases (s.derive rules).isProved <;> rfl
  refine ⟨_, (s.steps rules 0).map Step.line, top, ?_, rfl, lines, ?_, deepest⟩
  · rw [run_prove, searchLog, verdict, count, ← depth]
    rfl
  · exact ProofTree.map_snd_visits _ 0

example : (((Sequent.mk [.disj (.var "A") (.var "B")] [.var "A"]).prove Rule.priority).run []).2.map
    LogRecord.message =
      ["Proof search: A ∨ B ⊦ A", "A ∨ B ⊦ A by left_branch", "  A ⊦ A by axiom", "  B ⊦ A fails",
        "Result: not proved (3 nodes, depth 2)"] := by decide +kernel

end Sequent

end Turnstile

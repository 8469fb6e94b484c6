import Turnstile.Outline
import Turnstile.Proofs.Priority
import Turnstile.Proofs.SequentLines
import Turnstile.Proofs.Subformulas

/-! The lines of an outline. Besides its sequents and labels an outline is made of a few characters
only, so whatever character all of these lack, the outline lacks too. In particular the outline of a
search breaks into just the lines that it was joined from. -/
namespace Turnstile

namespace Text

instance (line : List Char) : Decidable (Unbroken line) :=
  inferInstanceAs (Decidable (_ ∧ _))

theorem Unbroken.append {first second : List Char} (before : Unbroken first)
    (behind : Unbroken second) : Unbroken (first ++ second) := by
  simp only [Unbroken, List.mem_append, not_or]
  exact ⟨⟨before.1, behind.1⟩, before.2, behind.2⟩

end Text

namespace ProofTree

variable {σ ρ : Type}

/-- The characters of an outline that come from no sequent and no label. -/
def decoration : List Char :=
  [' ', '✓', '[', ']', 'F', 'a', 'i', 'l']

variable {c : Char} {shown : ρ → Option String}

/-- A node without a certain character in its sequent and in the label that is shown. -/
def Lacks (c : Char) (shown : ρ → Option String) (t : ProofTree String ρ) : Prop :=
  c ∉ t.sequent.toList ∧ ∀ label, shown t.label = some label → c ∉ label.toList

section

variable (other : c ∉ decoration)
include other

theorem not_mem_indent {line : String} (absent : c ∉ line.toList) (level : Nat) :
    c ∉ (indent level line).toList := by
  simp_all [decoration, indent]

theorem not_mem_headline {t : ProofTree String ρ} (lacks : Lacks c shown t) :
    c ∉ (headline shown t).toList := by
  obtain ⟨sequent, label⟩ := lacks
  unfold headline
  split
  · simp_all [decoration]
  · split
    · have absent := label _ ‹_›
      simp_all [decoration]
    · exact sequent

theorem not_mem_outlineLines {t : ProofTree String ρ} (lacks : ∀ n ∈ t.walk, Lacks c shown n)
    (level : Nat) : ∀ line ∈ t.outlineLines shown level, c ∉ line.toList := by
  -- The first line is that of the node itself, whatever stands below it.
  have here (t : ProofTree String ρ) (level : Nat) (clear : Lacks c shown t) :
      c ∉ (indent level (headline shown t)).toList :=
    not_mem_indent other (not_mem_headline other clear) level
  induction t generalizing level with
  | closed s l => exact List.forall_mem_singleton.mpr (here _ level (lacks _ (by simp [walk])))
  | failed s l =>
    refine List.forall_mem_cons.mpr ⟨here _ level (lacks _ (by simp [walk])), ?_⟩
    refine List.forall_mem_singleton.mpr (not_mem_indent other ?_ _)
    simp_all [decoration]
  | single s l t ih =>
    refine List.forall_mem_cons.mpr ⟨here _ level (lacks _ (by simp [walk])), ?_⟩
    exact ih (fun n below => lacks n (by simp [walk, below])) _
  | double s l t u first second =>
    refine List.forall_mem_cons.mpr ⟨here _ level (lacks _ (by simp [walk])), ?_⟩
    refine List.forall_mem_append.mpr ⟨first (fun n below => lacks n ?_) _,
      second (fun n below => lacks n ?_) _⟩
    · simp [walk, below]
    · simp [walk, below]

end

end ProofTree

namespace Derivation

/-- All labels that a search puts on its nodes. -/
def labels : List String :=
  "fail" :: Rule.priority.map Rule.name

theorem label_of_mem_walk {rules : List Rule} {s : Sequent} {n : Derivation}
    (member : n ∈ (s.derive rules).walk) : ∃ label ∈ labels, n.label = some label := by
  rw [Sequent.eq_derive_of_mem_walk member]
  cases found : Rule.firstInference? rules n.sequent with
  | none =>
    rw [Sequent.derive_of_stuck found]
    exact ⟨"fail", by simp [labels], rfl⟩
  | some i =>
    refine ⟨i.rule.name, ?_, (Sequent.derive_of_inference found).2.1⟩
    exact List.mem_cons_of_mem _ (List.mem_map_of_mem (Rule.mem_priority i.rule))

/-- A character that stands nowhere in the outline of a search. -/
structure Unused (c : Char) : Prop where
  foreign : Grammar.Foreign c
  undecorative : c ∉ ProofTree.decoration
  unlabelled : ∀ label ∈ labels, c ∉ label.toList

theorem Unused.not_mem_outlineLines {c : Char} (unused : Unused c) {g : Glyphs}
    (readable : g.Readable) {rules : List Rule} {s : Sequent} (named : ∀ n ∈ s.names, IsName n)
    {shown : Option String → Option String}
    (subset : ∀ label text, shown label = some text → label = some text) :
    ∀ line ∈ ((s.derive rules).map (·.render g) id).outlineLines shown 0, c ∉ line.toList := by
  refine ProofTree.not_mem_outlineLines unused.undecorative (fun n member => ?_) 0
  rw [ProofTree.walk_map] at member
  obtain ⟨node, inside, rfl⟩ := List.mem_map.mp member
  constructor
  · obtain ⟨ts, writes, _⟩ := Sequent.exists_writes_render readable fun n here =>
      named n (Sequent.names_of_mem_walk rules s inside here)
    rw [ProofTree.sequent_map]
    exact writes.spells.not_mem unused.foreign
  · intro text visible
    obtain ⟨label, known, same⟩ := label_of_mem_walk inside
    rw [ProofTree.label_map, id, same] at visible
    rw [← Option.some.inj (subset _ _ visible)]
    exact unused.unlabelled label known

end Derivation

end Turnstile

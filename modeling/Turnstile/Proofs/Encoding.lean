import Turnstile.Document.Encoding
import Turnstile.Proofs.JsonReading

/-! Encodings read back. The text of a proof tree, in any layout and for any names and labels,
is decoded to the document that was encoded, and the equality of documents tells different
proof trees apart. What is said of formulas and sequents on the way holds for names of any
type, if it holds for the names. -/
namespace Turnstile

variable {α : Type}

theorem Formula.verbal_toJson {name : α → Json} (verbal : ∀ n, (name n).Verbal) (a : Formula α) :
    (a.toJson name).Verbal := by
  induction a with
  | var n => exact .object (by simp [Fields.names]) (by simp [Json.Verbal.text, verbal])
  | neg a ih => exact .object (by simp [Fields.names]) (by simp [Json.Verbal.text, ih])
  | conj a b first second | disj a b first second =>
    exact .object (by simp [Fields.names]) (by simp [Json.Verbal.text, first, second])

theorem Sequent.verbal_toJson {name : α → Json} (verbal : ∀ n, (name n).Verbal) (s : Sequent α) :
    (s.toJson name).Verbal := by
  have side (as : List (Formula α)) : (Json.array (as.map (Formula.toJson name))).Verbal :=
    .array (List.forall_mem_map.mpr fun a _ => a.verbal_toJson verbal)
  exact .object (by simp [Fields.names]) (by simp [Json.Verbal.text, side])

namespace Derivation

theorem verbal_nodeJson (s : Sequent) (label : Option String) {children : List Json}
    (verbal : ∀ child ∈ children, child.Verbal) : (nodeJson s label children).Verbal := by
  have labelled : (Json.ofText? label).Verbal := by
    cases label with
    | none => exact .null
    | some text => exact .text text
  have sequent := s.verbal_toJson Json.Verbal.text
  exact .object (by simp [Fields.names])
    (by simp [Json.Verbal.text, sequent, labelled, Json.Verbal.array verbal])

theorem verbal_toJson (t : Derivation) : (toJson t).Verbal := by
  induction t with
  | closed s l => exact verbal_nodeJson s l nofun
  | failed s l =>
    have mark : failJson.Verbal := .object (by simp [Fields.names]) (by simp [Json.Verbal.text])
    exact verbal_nodeJson s l (by simp [mark])
  | single s l t ih => exact verbal_nodeJson s l (by simp [ih])
  | double s l t u first second => exact verbal_nodeJson s l (by simp [first, second])

end Derivation

namespace Document

open Json (fold fold_text fold_array fold_object foldItems foldItems_nil foldItems_cons
  foldItems_map foldFields_nil foldFields_cons)

/-- A formula is decoded from its encoding under either vocabulary. -/
theorem fold_formula {v : Vocabulary} {name : α → Json} {back : α → Document}
    (decoded : ∀ n, fold (builder v).joining (name n) = .ok (back n)) (a : Formula α) :
    fold (builder v).joining (a.toJson name) = .ok (ofFormula back a) := by
  induction a with
  | var n =>
    exact fold_object (foldFields_cons (fold_text _) (foldFields_cons (decoded n) foldFields_nil))
  | neg a ih =>
    exact fold_object (foldFields_cons (fold_text _) (foldFields_cons ih foldFields_nil))
  | conj a b first second | disj a b first second =>
    exact fold_object (foldFields_cons (fold_text _) (foldFields_cons first
      (foldFields_cons second foldFields_nil)))

theorem fold_sequent {v : Vocabulary} {name : α → Json} {back : α → Document}
    (decoded : ∀ n, fold (builder v).joining (name n) = .ok (back n)) (s : Sequent α) :
    fold (builder v).joining (s.toJson name) = .ok (ofSequent back s) := by
  have side (as : List (Formula α)) :
      fold (builder v).joining (.array (as.map (Formula.toJson name))) =
        .ok (array (as.map (ofFormula back))) :=
    fold_array (foldItems_map as (fold_formula decoded))
  exact fold_object (foldFields_cons (fold_text _) (foldFields_cons (side s.left)
    (foldFields_cons (side s.right) foldFields_nil)))

theorem fold_failJson : fold (builder .derivations).joining Derivation.failJson = .ok fail := rfl

/-- A node is decoded after the things below it, if these can stand below one node. -/
theorem fold_nodeJson (s : Sequent) (label : Option String) {children : List Json}
    {below : List Document}
    (folded : foldItems (builder .derivations).joining children = .ok below) :
    fold (builder .derivations).joining (Derivation.nodeJson s label children) =
      makeNode (ofSequent text s) (ofLabel label) below := by
  have sequent : fold (builder .derivations).joining (s.toJson .text) = .ok (ofSequent text s) :=
    fold_sequent fold_text s
  have labelled : fold (builder .derivations).joining (Json.ofText? label) =
      .ok (ofLabel label) := by
    cases label <;> rfl
  exact fold_object (foldFields_cons (fold_text _) (foldFields_cons sequent
    (foldFields_cons labelled (foldFields_cons (fold_array folded) foldFields_nil))))

theorem makeNode_single (s l : Document) (t : ProofTree Document Document) :
    makeNode s l [ofTree t] = .ok (ofTree (.single s l t)) := by
  cases t <;> rfl

theorem makeNode_double (s l : Document) (t u : ProofTree Document Document) :
    makeNode s l [ofTree t, ofTree u] = .ok (ofTree (.double s l t u)) := by
  cases t <;> cases u <;> rfl

theorem fold_derivation (t : Derivation) :
    fold (builder .derivations).joining (Derivation.toJson t) = .ok (ofDerivation t) := by
  induction t with
  | closed s l => exact fold_nodeJson s l foldItems_nil
  | failed s l => exact fold_nodeJson s l (foldItems_cons fold_failJson foldItems_nil)
  | single s l t ih =>
    have below := foldItems_cons ih foldItems_nil
    exact (fold_nodeJson s l below).trans (makeNode_single _ _ _)
  | double s l t u first second =>
    have below := foldItems_cons first (foldItems_cons second foldItems_nil)
    exact (fold_nodeJson s l below).trans (makeNode_double _ _ _ _)

theorem same_text (m n : String) : same (text m) (text n) = true ↔ m = n := by
  simp [same]

/-- Documents that are made of formulas are equal only if the formulas are. -/
theorem same_ofFormula {name : α → Document}
    (faithful : ∀ m n, same (name m) (name n) = true ↔ m = n) (a b : Formula α) :
    same (ofFormula name a) (ofFormula name b) = true ↔ a = b := by
  induction a generalizing b with
  | var n => cases b <;> simp [ofFormula, same, faithful]
  | neg a ih => cases b <;> simp [ofFormula, same, ih]
  | conj a c first second => cases b <;> simp [ofFormula, same, first, second]
  | disj a c first second => cases b <;> simp [ofFormula, same, first, second]

theorem sameItems_map_ofFormula {name : α → Document}
    (faithful : ∀ m n, same (name m) (name n) = true ↔ m = n) (as bs : List (Formula α)) :
    sameItems (as.map (ofFormula name)) (bs.map (ofFormula name)) = true ↔ as = bs := by
  induction as generalizing bs with
  | nil => cases bs <;> simp [sameItems]
  | cons a as ih => cases bs <;> simp [sameItems, same_ofFormula faithful, ih]

theorem same_ofSequent {name : α → Document}
    (faithful : ∀ m n, same (name m) (name n) = true ↔ m = n) (s t : Sequent α) :
    same (ofSequent name s) (ofSequent name t) = true ↔ s = t := by
  cases s
  cases t
  simp [ofSequent, same, sameItems_map_ofFormula faithful]

theorem same_ofLabel (l m : Option String) : same (ofLabel l) (ofLabel m) = true ↔ l = m := by
  cases l <;> cases m <;> simp [ofLabel, same]

theorem same_ofTree_fail (t : ProofTree Document Document) : same (ofTree t) fail = false := by
  cases t <;> simp [ofTree, same]

theorem same_fail_ofTree (t : ProofTree Document Document) : same fail (ofTree t) = false := by
  cases t <;> simp [ofTree, same]

theorem same_ofDerivation (t u : Derivation) :
    same (ofDerivation t) (ofDerivation u) = true ↔ t = u := by
  have sequents := same_ofSequent same_text
  unfold ofDerivation
  induction t generalizing u with
  | closed s l =>
    cases u <;> simp [ProofTree.map, ofTree, same, sameItems, sequents, same_ofLabel]
  | failed s l =>
    cases u <;> simp [ProofTree.map, ofTree, same, sameItems, sequents, same_ofLabel,
      same_fail_ofTree]
  | single s l t ih =>
    cases u <;> simp [ProofTree.map, ofTree, same, sameItems, sequents, same_ofLabel,
      same_ofTree_fail, ih, and_assoc]
  | double s l t u first second =>
    cases u <;> simp [ProofTree.map, ofTree, same, sameItems, sequents, same_ofLabel,
      same_ofTree_fail, first, second, and_assoc]

end Document

/-- The text of a proof tree is decoded to that tree, whatever its names and labels and in every
layout. The decoded document equals no other tree's. -/
theorem Derivation.decode_encode_tree (t : Derivation) (indentation : Option Nat) :
    Document.decode .derivations (Derivation.encode indentation t) =
        .ok (Document.ofDerivation t) ∧
      ∀ other : Derivation,
        Document.same (Document.ofDerivation t) (Document.ofDerivation other) = true ↔ t = other :=
  ⟨(Derivation.verbal_toJson t).read_render ⟨indentation, false⟩ (Document.fold_derivation t),
    Document.same_ofDerivation t⟩

end Turnstile

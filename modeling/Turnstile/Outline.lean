import Turnstile.ProofTree

/-! Indented outlines of proof trees: one line for every node and every failure. -/
namespace Turnstile.ProofTree

variable {ρ : Type}

def indent (level : Nat) (line : String) : String :=
  String.ofList (List.replicate (2 * level) ' ') ++ line

/-- A closed node has a tick. Any other shows its label if it has one to show. -/
def headline (shown : ρ → Option String) (t : ProofTree String ρ) : String :=
  if t.isClosed then t.sequent ++ "  ✓"
  else
    match shown t.label with
    | some label => t.sequent ++ "  [" ++ label ++ "]"
    | none => t.sequent

def outlineLines (shown : ρ → Option String) (level : Nat) : ProofTree String ρ → List String
  | closed s l => [indent level (headline shown (closed s l))]
  | failed s l => [indent level (headline shown (failed s l)), indent (level + 1) "Fail"]
  | single s l t =>
    indent level (headline shown (single s l t)) :: t.outlineLines shown (level + 1)
  | double s l t u =>
    indent level (headline shown (double s l t u)) ::
      (t.outlineLines shown (level + 1) ++ u.outlineLines shown (level + 1))

/-- The outline of a tree of rendered sequents, with the labels that are to be shown. -/
def outline (shown : ρ → Option String) (t : ProofTree String ρ) : String :=
  "\n".intercalate (t.outlineLines shown 0)

end Turnstile.ProofTree

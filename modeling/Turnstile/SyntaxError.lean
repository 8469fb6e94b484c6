/-! What can be wrong with a written sequent, and where. -/
namespace Turnstile

inductive Complaint where
  | invalidSymbol
  | unexpectedItem
  | missingOperand
  | emptyNotExpected
  | blankTerm
  | expectedMore
  | commaOrTurnstileExpected
  | turnstileNotExpected
  | turnstileExpected
  | endExpected
  | commaExpected
  | termExpected
  | termOrTurnstileExpected
  | termOrEndExpected
  deriving DecidableEq, Repr

def Complaint.message : Complaint → String
  | invalidSymbol => "Invalid symbol"
  | unexpectedItem => "Unexpected item"
  | missingOperand => "Binary operator without second operand"
  | emptyNotExpected => "Empty not expected"
  | blankTerm => "Blank term"
  | expectedMore => "Expected more"
  | commaOrTurnstileExpected => "Comma or turnstile expected"
  | turnstileNotExpected => "Turnstile not expected"
  | turnstileExpected => "Turnstile expected"
  | endExpected => "End expected"
  | commaExpected => "Comma expected"
  | termExpected => "Term expected"
  | termOrTurnstileExpected => "Term or turnstile expected"
  | termOrEndExpected => "Term or end expected"

/-- A complaint at a character offset. -/
structure SyntaxError where
  complaint : Complaint
  position : Nat
  deriving DecidableEq, Repr

/-- A message that points into a text. -/
structure Diagnostic where
  message : String
  position : Int
  deriving DecidableEq, Repr

namespace Diagnostic

def text (d : Diagnostic) : String :=
  d.message ++ " (at position " ++ toString d.position ++ ")"

/-- The text with a caret under the position; a negative position counts as zero. -/
def highlight (d : Diagnostic) (source : String) : String :=
  "  " ++ source ++ "\n  " ++ String.ofList (List.replicate d.position.toNat ' ') ++ "^"

end Diagnostic

def SyntaxError.diagnostic (e : SyntaxError) : Diagnostic :=
  ⟨e.complaint.message, e.position⟩

end Turnstile

import Turnstile.SyntaxError
import Turnstile.Token

/-! The stack on which a formula is put together from its tokens. Negations and
conjunctions are applied as soon as their last operand is complete; a disjunction waits
for the next one, for its closing parenthesis or for the end. -/
namespace Turnstile

/-- An operand, or a symbol that waits for one. -/
inductive StackItem where
  | operand (a : Formula)
  | neg
  | conj
  | disj
  | opening
  deriving DecidableEq, Repr

/-- Items from the top down. -/
abbrev OperandStack := List StackItem

namespace OperandStack

/-- Applies the negations and conjunctions whose operands are complete. -/
def reduce : OperandStack → OperandStack
  | .operand a :: .neg :: below => reduce (.operand (.neg a) :: below)
  | .operand b :: .conj :: .operand a :: below => reduce (.operand (.conj a b) :: below)
  | stack => stack
termination_by stack => stack.length

/-- Applies the disjunctions at the top. -/
def collapse : OperandStack → OperandStack
  | .operand b :: .disj :: .operand a :: below => collapse (.operand (.disj a b) :: below)
  | stack => stack
termination_by stack => stack.length

def topIsOperand : OperandStack → Bool
  | .operand _ :: _ => true
  | _ => false

/-- An operand starts here: two operands may not meet. -/
def beforeOperand (stack next : OperandStack) : Except Complaint OperandStack :=
  if stack.topIsOperand then .error .unexpectedItem else .ok next

/-- A binary connective stands here: it needs a left operand. -/
def afterOperand (stack next : OperandStack) : Except Complaint OperandStack :=
  if stack.topIsOperand then .ok next else .error .unexpectedItem

/-- Takes in one token of a formula. -/
def shift (stack : OperandStack) : Token → Except Complaint OperandStack
  | .name n => stack.beforeOperand (reduce (.operand (.var n) :: stack))
  | .glyph .neg => stack.beforeOperand (.neg :: stack)
  | .opening => stack.beforeOperand (.opening :: stack)
  | .glyph .conj => stack.afterOperand (.conj :: stack)
  | .glyph .disj => stack.afterOperand (.disj :: stack.collapse)
  | .closing =>
    match stack.collapse with
    | .operand a :: .opening :: below => .ok (reduce (.operand a :: below))
    | _ => .error .missingOperand
  | .glyph .empty => .error .emptyNotExpected
  | .glyph .turnstile | .comma => .error .expectedMore

/-- The formula that the stack amounts to when no more tokens follow. -/
def finish (stack : OperandStack) : Except Complaint Formula :=
  match stack.collapse with
  | [.operand a] => .ok a
  | [] => .error .blankTerm
  | _ => .error .expectedMore

end OperandStack

end Turnstile

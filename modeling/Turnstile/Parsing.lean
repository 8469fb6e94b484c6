import Turnstile.Cursor
import Turnstile.OperandStack

/-! Reading formulas and sequents from a cursor. Every reader returns the cursor with its
outcome, so that a failed reading can be resumed from where it stopped. -/
namespace Turnstile

/-- The outcome of reading, and the cursor after it. -/
abbrev Reading (α : Type) := Except SyntaxError α × Cursor

namespace Cursor

/-- Reads the rest of a term whose first tokens are on the stack, up to a comma, a
turnstile or the end. -/
def readOperands (stack : OperandStack) (c : Cursor) : Reading Formula :=
  match _seen : c.sight with
  | .invalid => (.error (c.complain .invalidSymbol), c)
  | .finish => (stack.finish.mapError c.complain, c)
  | .token t after =>
    if t.endsTerm then (stack.finish.mapError c.complain, c)
    else
      match stack.shift t with
      | .error complaint => (.error (c.complain complaint), c)
      | .ok next => readOperands next after
termination_by c.rest.length
decreasing_by exact sight_length ‹_›

/-- Reads one term, or the mark of an empty side, for which nothing is returned. -/
def readTerm (c : Cursor) : Reading (Option Formula) :=
  match c.sight with
  | .token (.glyph .empty) after => (.ok none, after)
  | _ =>
    match c.readOperands [] with
    | (.ok a, after) => (.ok (some a), after)
    | (.error e, after) => (.error e, after)

theorem readOperands_length {stack : OperandStack} {c after : Cursor} {a : Formula}
    (read : c.readOperands stack = (.ok a, after)) :
    after.rest.length ≤ c.rest.length ∧ (stack = [] → after.rest.length < c.rest.length) := by
  fun_induction readOperands stack c with
  | case1 => cases read
  | case2 stack c seen =>
    cases finished : stack.finish with
    | error e =>
      rw [finished] at read
      cases (congrArg Prod.fst read : Except.error _ = Except.ok a)
    | ok b =>
      have same : c = after := (Prod.mk.inj read).2
      refine ⟨Nat.le_of_eq (congrArg (·.rest.length) same.symm), fun empty => ?_⟩
      subst empty
      simp [OperandStack.finish, OperandStack.collapse] at finished
  | case3 stack c t after' seen ends =>
    cases finished : stack.finish with
    | error e =>
      rw [finished] at read
      cases (congrArg Prod.fst read : Except.error _ = Except.ok a)
    | ok b =>
      have same : c = after := (Prod.mk.inj read).2
      refine ⟨Nat.le_of_eq (congrArg (·.rest.length) same.symm), fun empty => ?_⟩
      subst empty
      simp [OperandStack.finish, OperandStack.collapse] at finished
  | case4 => cases read
  | case5 stack c t after' seen ends next shifted ih =>
    have shorter := sight_length seen
    have rest := (ih read).1
    exact ⟨by omega, fun _ => by omega⟩

theorem readTerm_length {c after : Cursor} {term : Option Formula}
    (read : c.readTerm = (.ok term, after)) : after.rest.length < c.rest.length := by
  unfold readTerm at read
  split at read
  · rename_i last seen
    cases read
    exact sight_length seen
  · split at read
    · rename_i a last operands
      cases read
      exact (readOperands_length operands).2 rfl
    · cases read

/-- How far a side has been read: nothing yet, its empty mark, or some terms in
reverse order. -/
inductive SideState where
  | start
  | empty
  | terms (last : Formula) (before : List Formula)
  deriving DecidableEq, Repr

namespace SideState

def formulas : SideState → List Formula
  | start | empty => []
  | terms last before => (last :: before).reverse

/-- Adds a term. The empty mark is accepted only alone. -/
def add? : SideState → Option Formula → Option SideState
  | terms last before, some a => some (terms a (last :: before))
  | terms _ _, none => none
  | _, some a => some (terms a [])
  | _, none => some empty

end SideState

/-- What to do where a side could go on. -/
inductive SideMove where
  | stop (after : Cursor)
  | term (start : Cursor)
  | complain (e : SyntaxError) (last : Cursor)

/-- Decides from the token at the cursor whether a side ends, goes on with a term, or is
malformed. A left side ends with the turnstile and a right side with the text. -/
def sideMove (side : Side) (state : SideState) (c : Cursor) : SideMove :=
  match side, c.sight with
  | _, .invalid => .complain (c.complain .invalidSymbol) c
  | .left, .finish => .complain (c.complain .commaOrTurnstileExpected) c
  | .right, .finish => .stop c
  | .left, .token (.glyph .turnstile) after => .stop after
  | .right, .token (.glyph .turnstile) _ => .complain (c.complain .turnstileNotExpected) c
  | _, .token t after =>
    match state with
    | .empty =>
      .complain (c.complain (if side = .left then .turnstileExpected else .endExpected)) c
    | .terms _ _ =>
      if t = .comma then
        match after.sight with
        | .finish => .complain (after.complain .termExpected) after
        | .invalid => .complain (after.complain .invalidSymbol) after
        | .token _ _ => .term after
      else .complain (c.complain .commaExpected) c
    | .start =>
      if t = .comma then
        .complain
          (c.complain (if side = .left then .termOrTurnstileExpected else .termOrEndExpected)) c
      else .term c

theorem sideMove_length {side : Side} {state : SideState} {c start : Cursor}
    (move : c.sideMove side state = .term start) : start.rest.length ≤ c.rest.length := by
  unfold sideMove at move
  split at move <;> try cases move
  rename_i t after _ _ seen
  have shorter := sight_length seen
  split at move
  · cases move
  · split at move
    · split at move <;> cases move
      omega
    · cases move
  · split at move <;> cases move
    exact Nat.le_refl _

/-- Reads the rest of a side. -/
def readSide (side : Side) (state : SideState) (c : Cursor) : Reading (List Formula) :=
  match _move : c.sideMove side state with
  | .stop after => (.ok state.formulas, after)
  | .complain e last => (.error e, last)
  | .term start =>
    match _read : start.readTerm with
    | (.error e, after) => (.error e, after)
    | (.ok term, after) =>
      match state.add? term with
      | none => (.error (start.complain .emptyNotExpected), after)
      | some next => readSide side next after
termination_by c.rest.length
decreasing_by
  have := sideMove_length ‹_›
  have := readTerm_length ‹_›
  omega

def readSequent (c : Cursor) : Reading Sequent :=
  match c.readSide .left .start with
  | (.error e, after) => (.error e, after)
  | (.ok left, middle) =>
    match middle.readSide .right .start with
    | (.error e, after) => (.error e, after)
    | (.ok right, after) => (.ok ⟨left, right⟩, after)

end Cursor

def Sequent.parse (text : String) : Except SyntaxError Sequent :=
  (Cursor.ofString text).readSequent.1

/-- Reads a text that holds one formula and nothing else. -/
def Formula.parse (text : String) : Except SyntaxError Formula :=
  match (Cursor.ofString text).readTerm with
  | (.error e, _) => .error e
  | (.ok none, _) => .error ⟨.emptyNotExpected, 0⟩
  | (.ok (some a), after) =>
    if after.atEnd then .ok a else .error (after.complain .endExpected)

end Turnstile

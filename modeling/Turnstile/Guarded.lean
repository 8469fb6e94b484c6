import Turnstile.Parsing

/-! Readers that know tokens by their texts only. They look at the text of the next token, decide
by it, and then take the token that they looked at. Every step of this checks what it is handed,
and a check that fails is a breach, which is the reader's own fault and not that of the text. Each
reader comes to the same as the one that follows the cursor from token to token, so no text brings
about a breach. -/
namespace Turnstile

/-- What ends an operation early. -/
inductive Fault where
  | complaint (e : SyntaxError)
  | breach (message : String)
  deriving DecidableEq, Repr

/-- The outcome of an operation that checks what it is handed, and the cursor after it. -/
abbrev Guarded (α : Type) := Except Fault α × Cursor

/-- A reading in which complaints are the only faults. -/
def Guarded.ofReading {α : Type} (r : Reading α) : Guarded α :=
  (r.1.mapError .complaint, r.2)

@[simp]
theorem Guarded.ofReading_error {α : Type} (e : SyntaxError) (after : Cursor) :
    (Guarded.ofReading (.error e, after) : Guarded α) = (.error (.complaint e), after) := rfl

@[simp]
theorem Guarded.ofReading_ok {α : Type} (a : α) (after : Cursor) :
    Guarded.ofReading (.ok a, after) = (.ok a, after) := rfl

theorem Guarded.ofReading_eq_ok_iff {α : Type} {r : Reading α} {a : α} {after : Cursor} :
    Guarded.ofReading r = (.ok a, after) ↔ r = (.ok a, after) := by
  rcases r with ⟨e | b, last⟩ <;> simp

namespace Token

/-- All tokens but names. -/
def marks : List Token :=
  [.comma, .opening, .closing] ++ Glyph.all.map .glyph

def isNameText (text : String) : Bool :=
  match text.toList with
  | [] => false
  | first :: rest => startsName first && rest.all continuesName

/-- The token of a text in canonical spelling. -/
def ofText? (text : String) : Option Token :=
  if isNameText text then some (.name text) else marks.find? (·.text = text)

theorem ofText?_of_mem_marks {t : Token} (mark : t ∈ marks) : ofText? t.text = some t := by
  revert t
  decide

theorem mem_marks_of_ofChar? {c : Char} {t : Token} (written : ofChar? c = some t) :
    t ∈ marks := by
  unfold ofChar? at written
  split at written
  · cases written
    decide
  · cases written
    decide
  · cases written
    decide
  · obtain ⟨g, _, rfl⟩ := Option.map_eq_some_iff.mp written
    cases g <;> decide

end Token

namespace Cursor

/-- A token that is seen can be told from its text. -/
theorem ofText?_text {c after : Cursor} {t : Token} (seen : c.sight = .token t after) :
    Token.ofText? t.text = some t := by
  unfold sight at seen
  split at seen
  · cases seen
  · rename_i first rest _
    split at seen
    · rename_i starts
      cases seen
      refine if_pos ?_
      simp [Token.isNameText, Token.text, starts]
    · split at seen
      · rename_i written
        cases seen
        exact Token.ofText?_of_mem_marks (Token.mem_marks_of_ofChar? written)
      · cases seen

/-- The text of a token that is seen tells it from every mark. -/
theorem text_eq_iff {c after : Cursor} {t u : Token} (seen : c.sight = .token t after)
    (mark : u ∈ Token.marks) : t.text = u.text ↔ t = u := by
  constructor
  · intro same
    have told := ofText?_text seen
    rw [same, Token.ofText?_of_mem_marks mark] at told
    exact (Option.some.inj told).symm
  · rintro rfl
    rfl

def TakeError.fault : TakeError → Fault
  | unreadable e => .complaint e
  | e => .breach e.message

/-- The text of the token at the cursor, or nothing at the end. -/
def look (c : Cursor) : Except Fault (Option String) :=
  match c.peek with
  | .error e => .error (.complaint e)
  | .ok t => .ok (t.map Token.text)

/-- Takes the token at the cursor, which must be there. -/
def grab (c : Cursor) : Guarded String :=
  match c.take with
  | (.error e, after) => (.error e.fault, after)
  | (.ok t, after) => (.ok t.text, after)

/-- Takes a token that must have the expected text. -/
def expect (expected : String) (c : Cursor) : Guarded Unit :=
  match c.consume expected with
  | (.error e, after) => (.error e.fault, after)
  | (.ok (), after) => (.ok (), after)

def refuse {α : Type} (c : Cursor) (complaint : Complaint) : Guarded α :=
  (.error (.complaint (c.complain complaint)), c)

theorem look_of_finish {c : Cursor} (seen : c.sight = .finish) : c.look = .ok none := by
  simp [look, peek, seen]

theorem look_of_invalid {c : Cursor} (seen : c.sight = .invalid) :
    c.look = .error (.complaint (c.complain .invalidSymbol)) := by
  simp [look, peek, seen]

theorem look_of_token {c after : Cursor} {t : Token} (seen : c.sight = .token t after) :
    c.look = .ok (some t.text) := by
  simp [look, peek, seen]

theorem expect_of_token {c after : Cursor} {t : Token} (seen : c.sight = .token t after) :
    c.expect t.text = (.ok (), after) := by
  simp [expect, consume, take, seen]

theorem sight_of_expect {c after : Cursor} {expected : String}
    (taken : c.expect expected = (.ok (), after)) : ∃ t, c.sight = .token t after := by
  cases seen : c.sight with
  | finish => simp [expect, consume, take, seen] at taken
  | invalid => simp [expect, consume, take, seen] at taken
  | token t next =>
    by_cases same : t.text = expected
    · subst same
      rw [expect_of_token seen] at taken
      cases taken
      exact ⟨t, rfl⟩
    · simp [expect, consume, take, seen, same] at taken

/-- Reads the rest of a term whose first tokens are on the stack. -/
def guardedOperands (stack : OperandStack) (c : Cursor) : Guarded Formula :=
  match c.look with
  | .error f => (.error f, c)
  | .ok none => .ofReading (stack.finish.mapError c.complain, c)
  | .ok (some text) =>
    match Token.ofText? text with
    | none => (.error (.breach ("Unhandled token " ++ Text.quote text)), c)
    | some t =>
      if t.endsTerm then .ofReading (stack.finish.mapError c.complain, c)
      else
        match stack.shift t with
        | .error complaint => c.refuse complaint
        | .ok next =>
          match _taken : c.expect text with
          | (.error f, after) => (.error f, after)
          | (.ok (), after) => guardedOperands next after
termination_by c.rest.length
decreasing_by
  obtain ⟨t, seen⟩ := sight_of_expect ‹_›
  exact sight_length seen

theorem guardedOperands_eq (stack : OperandStack) (c : Cursor) :
    c.guardedOperands stack = .ofReading (c.readOperands stack) := by
  fun_induction readOperands stack c with
  | case1 stack c seen =>
    rw [guardedOperands, look_of_invalid seen]
    rfl
  | case2 stack c seen => rw [guardedOperands, look_of_finish seen]
  | case3 stack c t after seen ends =>
    rw [guardedOperands, look_of_token seen]
    simp only [ofText?_text seen, ends, if_true]
  | case4 stack c t after seen inside complaint failed =>
    rw [guardedOperands, look_of_token seen]
    simp only [ofText?_text seen, inside, failed]
    rfl
  | case5 stack c t after seen inside next shifted ih =>
    rw [guardedOperands, look_of_token seen]
    simp only [ofText?_text seen, inside, Bool.false_eq_true, if_false, shifted]
    have taken := expect_of_token seen
    split
    · rename_i failed
      cases taken.symm.trans failed
    · rename_i again
      cases taken.symm.trans again
      exact ih

/-- Reads one term, or the mark of an empty side. -/
def guardedTerm (c : Cursor) : Guarded (Option Formula) :=
  match c.look with
  | .error f => (.error f, c)
  | .ok text =>
    if text = some (Token.text (.glyph .empty)) then
      match c.expect (Token.text (.glyph .empty)) with
      | (.error f, after) => (.error f, after)
      | (.ok (), after) => (.ok none, after)
    else
      match c.guardedOperands [] with
      | (.error f, after) => (.error f, after)
      | (.ok a, after) => (.ok (some a), after)

theorem readOperands_of_invalid {c : Cursor} (seen : c.sight = .invalid) (stack : OperandStack) :
    c.readOperands stack = (.error (c.complain .invalidSymbol), c) := by
  rw [readOperands]
  split <;> simp_all

theorem readTerm_of_unmarked {c : Cursor}
    (unmarked : ∀ after, c.sight ≠ .token (.glyph .empty) after) :
    c.readTerm =
      match c.readOperands [] with
      | (.error e, after) => (.error e, after)
      | (.ok a, after) => (.ok (some a), after) := by
  unfold readTerm
  split
  · rename_i after seen
    exact (unmarked after seen).elim
  · rcases c.readOperands [] with ⟨_ | _, _⟩ <;> rfl

theorem guardedTerm_eq (c : Cursor) : c.guardedTerm = .ofReading c.readTerm := by
  cases seen : c.sight with
  | invalid =>
    simp [guardedTerm, look_of_invalid seen, readTerm, seen, readOperands_of_invalid seen]
  | finish =>
    have unmarked : ∀ after, c.sight ≠ .token (.glyph .empty) after := by simp [seen]
    simp only [guardedTerm, look_of_finish seen, readTerm_of_unmarked unmarked, guardedOperands_eq,
      reduceCtorEq, if_false]
    rcases c.readOperands [] with ⟨_ | _, _⟩ <;> rfl
  | token t after =>
    by_cases mark : t = .glyph .empty
    · subst mark
      simp only [guardedTerm, look_of_token seen, readTerm, seen, if_true, expect_of_token seen]
      rfl
    · have other : some t.text ≠ some (Token.text (.glyph .empty)) := by
        rw [ne_eq, Option.some.injEq, text_eq_iff seen (by decide)]
        exact mark
      have unmarked : ∀ after, c.sight ≠ .token (.glyph .empty) after := by simp [seen, mark]
      simp only [guardedTerm, look_of_token seen, other, if_false, readTerm_of_unmarked unmarked,
        guardedOperands_eq]
      rcases c.readOperands [] with ⟨_ | _, _⟩ <;> rfl

/-- Goes on to where the next term of a side starts, and tells whether there is one. -/
def guardedMove (side : Side) (state : SideState) (c : Cursor) : Guarded Bool :=
  match c.look with
  | .error f => (.error f, c)
  | .ok none =>
    match side with
    | .left => c.refuse .commaOrTurnstileExpected
    | .right => (.ok false, c)
  | .ok (some text) =>
    if text = Token.text (.glyph .turnstile) then
      match side with
      | .left =>
        match c.expect text with
        | (.error f, after) => (.error f, after)
        | (.ok (), after) => (.ok false, after)
      | .right => c.refuse .turnstileNotExpected
    else
      match state with
      | .empty => c.refuse (if side = .left then .turnstileExpected else .endExpected)
      | .terms _ _ =>
        if text = Token.text .comma then
          match c.expect text with
          | (.error f, after) => (.error f, after)
          | (.ok (), after) =>
            match after.look with
            | .error f => (.error f, after)
            | .ok none => after.refuse .termExpected
            | .ok (some _) => (.ok true, after)
        else c.refuse .commaExpected
      | .start =>
        if text = Token.text .comma then
          c.refuse (if side = .left then .termOrTurnstileExpected else .termOrEndExpected)
        else (.ok true, c)

def SideMove.guarded : SideMove → Guarded Bool
  | stop after => (.ok false, after)
  | term start => (.ok true, start)
  | complain e last => (.error (.complaint e), last)

/-- What a side does at a token that does not end it goes by its state. -/
theorem sideMove_of_token {side : Side} {c after : Cursor} {t : Token}
    (seen : c.sight = .token t after) (inside : t ≠ .glyph .turnstile) (state : SideState) :
    c.sideMove side state =
      match state with
      | .empty =>
        .complain (c.complain (if side = .left then .turnstileExpected else .endExpected)) c
      | .terms _ _ =>
        if t = .comma then
          match after.sight with
          | .finish => .complain (after.complain .termExpected) after
          | .invalid => .complain (after.complain .invalidSymbol) after
          | .token _ _ => .term after
        else .complain (c.complain .commaExpected) c
      | .start =>
        if t = .comma then
          .complain
            (c.complain (if side = .left then .termOrTurnstileExpected else .termOrEndExpected)) c
        else .term c := by
  unfold sideMove
  rw [seen]
  cases t with
  | name | comma | opening | closing => cases side <;> rfl
  | glyph g =>
    cases g with
    | turnstile => exact (inside rfl).elim
    | empty | neg | conj | disj => cases side <;> rfl

theorem guardedMove_eq (side : Side) (state : SideState) (c : Cursor) :
    c.guardedMove side state = (c.sideMove side state).guarded := by
  cases seen : c.sight with
  | invalid =>
    simp only [guardedMove, look_of_invalid seen, sideMove, seen]
    rfl
  | finish =>
    cases side <;> simp only [guardedMove, look_of_finish seen, sideMove, seen] <;> rfl
  | token t after =>
    simp only [guardedMove, look_of_token seen, text_eq_iff seen (u := .glyph .turnstile) (by decide),
      text_eq_iff seen (u := .comma) (by decide), expect_of_token seen]
    by_cases turnstile : t = .glyph .turnstile
    · subst turnstile
      cases side <;> simp [sideMove, seen] <;> rfl
    · simp only [turnstile, if_false, sideMove_of_token seen turnstile]
      by_cases comma : t = .comma
      · simp only [comma, if_true]
        cases state with
        | empty | start => rfl
        | terms last before =>
          cases ahead : after.sight with
          | invalid =>
            simp only [look_of_invalid ahead]
            rfl
          | finish =>
            simp only [look_of_finish ahead]
            rfl
          | token u next =>
            simp only [look_of_token ahead]
            rfl
      · simp only [comma, if_false]
        cases state <;> rfl

theorem sideMove_of_guarded {side : Side} {state : SideState} {c start : Cursor}
    (move : c.guardedMove side state = (.ok true, start)) : c.sideMove side state = .term start := by
  rw [guardedMove_eq] at move
  cases other : c.sideMove side state with
  | stop after =>
    rw [other] at move
    cases move
  | complain e last =>
    rw [other] at move
    cases move
  | term start' =>
    rw [other] at move
    cases move
    rfl

/-- Reads the rest of a side. -/
def guardedSide (side : Side) (state : SideState) (c : Cursor) : Guarded (List Formula) :=
  match _move : c.guardedMove side state with
  | (.error f, last) => (.error f, last)
  | (.ok false, after) => (.ok state.formulas, after)
  | (.ok true, start) =>
    match _read : start.guardedTerm with
    | (.error f, after) => (.error f, after)
    | (.ok term, after) =>
      match state.add? term with
      | none => (.error (.complaint (start.complain .emptyNotExpected)), after)
      | some next => guardedSide side next after
termination_by c.rest.length
decreasing_by
  have skipped := sideMove_length (sideMove_of_guarded _move)
  have shorter := readTerm_length
    (Guarded.ofReading_eq_ok_iff.mp ((guardedTerm_eq start).symm.trans _read))
  omega

theorem guardedSide_of_term {side : Side} {state : SideState} {c start : Cursor}
    (move : c.sideMove side state = .term start) :
    c.guardedSide side state =
      match start.guardedTerm with
      | (.error f, after) => (.error f, after)
      | (.ok term, after) =>
        match state.add? term with
        | none => (.error (.complaint (start.complain .emptyNotExpected)), after)
        | some next => after.guardedSide side next := by
  have same : c.guardedMove side state = (.ok true, start) := by
    rw [guardedMove_eq, move]
    rfl
  rw [guardedSide]
  split <;> cases same.symm.trans ‹_›
  split <;> simp_all

theorem guardedSide_eq (side : Side) (state : SideState) (c : Cursor) :
    c.guardedSide side state = .ofReading (c.readSide side state) := by
  fun_induction readSide side state c with
  | case1 state c after move =>
    have same : c.guardedMove side state = (.ok false, after) := by
      rw [guardedMove_eq, move]
      rfl
    rw [guardedSide]
    split <;> cases same.symm.trans ‹_›
    rfl
  | case2 state c e last move =>
    have same : c.guardedMove side state = (.error (.complaint e), last) := by
      rw [guardedMove_eq, move]
      rfl
    rw [guardedSide]
    split <;> cases same.symm.trans ‹_›
    rfl
  | case3 state c start move e last failed =>
    simp [guardedSide_of_term move, guardedTerm_eq, failed]
  | case4 state c start move term middle read refused =>
    simp [guardedSide_of_term move, guardedTerm_eq, read, refused]
  | case5 state c start move term middle read next added ih =>
    simp [guardedSide_of_term move, guardedTerm_eq, read, added, ih]

def guardedSequent (c : Cursor) : Guarded Sequent :=
  match c.guardedSide .left .start with
  | (.error f, after) => (.error f, after)
  | (.ok left, middle) =>
    match middle.guardedSide .right .start with
    | (.error f, after) => (.error f, after)
    | (.ok right, after) => (.ok ⟨left, right⟩, after)

theorem guardedSequent_eq (c : Cursor) : c.guardedSequent = .ofReading c.readSequent := by
  rcases left : c.readSide .left .start with ⟨e | formulas, middle⟩
  · simp [guardedSequent, readSequent, guardedSide_eq, left]
  · rcases right : middle.readSide .right .start with ⟨e | others, after⟩ <;>
      simp [guardedSequent, readSequent, guardedSide_eq, left, right]

end Cursor

end Turnstile

import Turnstile.Proofs.Stopping

/-! Reading the same tokens elsewhere. Where the cursors of a text are carried to cursors of
another, so that they see the same tokens, every reader returns the same there: the same result, or
the same complaint at the place that its own was carried to. -/
namespace Turnstile

/-- What is seen, with the cursor behind it carried elsewhere. -/
def Sight.map (f : Cursor → Cursor) : Sight → Sight
  | finish => finish
  | invalid => invalid
  | token t after => token t (f after)

/-- A map of the cursors of a text that keeps what they see and carries their offsets along. -/
structure Relocation (text : String) where
  cursor : Cursor → Cursor
  offset : Nat → Nat
  offset_cursor : ∀ {c : Cursor}, c.StandsIn text → (cursor c).offset = offset c.offset
  sight_cursor : ∀ {c : Cursor}, c.StandsIn text → (cursor c).sight = c.sight.map cursor

namespace Cursor

theorem readOperands_of_finish {c : Cursor} (seen : c.sight = .finish) (stack : OperandStack) :
    c.readOperands stack = (stack.finish.mapError c.complain, c) := by
  rw [readOperands]
  split <;> simp_all

theorem readOperands_of_token {c after : Cursor} {t : Token} (seen : c.sight = .token t after)
    (stack : OperandStack) :
    c.readOperands stack =
      if t.endsTerm then (stack.finish.mapError c.complain, c)
      else
        match stack.shift t with
        | .error complaint => (.error (c.complain complaint), c)
        | .ok next => after.readOperands next := by
  rw [readOperands]
  split <;> cases seen.symm.trans ‹_›
  rfl

/-- What reading a side comes to where a term of it starts. -/
theorem readSide_at_term {side : Side} {state : SideState} {c start : Cursor}
    (move : c.sideMove side state = .term start) :
    c.readSide side state =
      match start.readTerm with
      | (.error e, after) => (.error e, after)
      | (.ok term, after) =>
        match state.add? term with
        | none => (.error (start.complain .emptyNotExpected), after)
        | some next => after.readSide side next := by
  rw [readSide]
  split <;> cases move.symm.trans ‹_›
  split
  · rename_i failed
    simp [failed]
  · rename_i term after read
    cases added : state.add? term <;> simp [read, added]

end Cursor

namespace Relocation

open Cursor

variable {text : String} (r : Relocation text)

/-- The same complaint at the offset that its own is carried to. -/
def error (e : SyntaxError) : SyntaxError :=
  ⟨e.complaint, r.offset e.position⟩

def reading {α : Type} (x : Reading α) : Reading α :=
  (x.1.mapError r.error, r.cursor x.2)

def move (m : SideMove) : SideMove :=
  match m with
  | .stop after => .stop (r.cursor after)
  | .term start => .term (r.cursor start)
  | .complain e last => .complain (r.error e) (r.cursor last)

@[simp]
theorem reading_ok {α : Type} (a : α) (c : Cursor) :
    r.reading (.ok a, c) = (.ok a, r.cursor c) := rfl

@[simp]
theorem reading_error {α : Type} (e : SyntaxError) (c : Cursor) :
    (r.reading (.error e, c) : Reading α) = (.error (r.error e), r.cursor c) := rfl

variable {c : Cursor}

theorem error_complain (stands : c.StandsIn text) (complaint : Complaint) :
    r.error (c.complain complaint) = (r.cursor c).complain complaint := by
  simp [error, complain, r.offset_cursor stands]

theorem sight_of_finish (stands : c.StandsIn text) (seen : c.sight = .finish) :
    (r.cursor c).sight = .finish := by
  rw [r.sight_cursor stands, seen]
  rfl

theorem sight_of_invalid (stands : c.StandsIn text) (seen : c.sight = .invalid) :
    (r.cursor c).sight = .invalid := by
  rw [r.sight_cursor stands, seen]
  rfl

theorem sight_of_token {after : Cursor} {t : Token} (stands : c.StandsIn text)
    (seen : c.sight = .token t after) : (r.cursor c).sight = .token t (r.cursor after) := by
  rw [r.sight_cursor stands, seen]
  rfl

theorem reading_finish (stands : c.StandsIn text) (stack : OperandStack) :
    r.reading (stack.finish.mapError c.complain, c) =
      (stack.finish.mapError (r.cursor c).complain, r.cursor c) := by
  cases stack.finish with
  | error complaint =>
    change (Except.error (r.error (c.complain complaint)), r.cursor c) = _
    rw [r.error_complain stands]
    rfl
  | ok a => rfl

theorem readOperands_cursor (stands : c.StandsIn text) (stack : OperandStack) :
    (r.cursor c).readOperands stack = r.reading (c.readOperands stack) := by
  -- Both runs see the same token, so a case of the one is the same case of the other.
  fun_induction readOperands stack c with
  | case1 stack c seen =>
    rw [readOperands_of_invalid (r.sight_of_invalid stands seen), reading_error,
      r.error_complain stands]
  | case2 stack c seen =>
    rw [readOperands_of_finish (r.sight_of_finish stands seen), r.reading_finish stands]
  | case3 stack c t after seen ends =>
    rw [readOperands_of_token (r.sight_of_token stands seen), if_pos ends, r.reading_finish stands]
  | case4 stack c t after seen inside complaint failed =>
    rw [readOperands_of_token (r.sight_of_token stands seen), if_neg inside, failed, reading_error,
      r.error_complain stands]
  | case5 stack c t after seen inside next shifted ih =>
    rw [readOperands_of_token (r.sight_of_token stands seen), if_neg inside, shifted]
    exact ih (stands.next seen)

theorem readTerm_cursor (stands : c.StandsIn text) :
    (r.cursor c).readTerm = r.reading c.readTerm := by
  by_cases mark : ∃ after, c.sight = .token (.glyph .empty) after
  · obtain ⟨after, seen⟩ := mark
    rw [readTerm_eq_none_iff.mpr seen, readTerm_eq_none_iff.mpr (r.sight_of_token stands seen),
      reading_ok]
  · have unmarked : ∀ after, c.sight ≠ .token (.glyph .empty) after := by
      intro after seen
      exact mark ⟨after, seen⟩
    have unmarkedThere : ∀ after, (r.cursor c).sight ≠ .token (.glyph .empty) after := by
      intro after there
      cases seen : c.sight with
      | finish => cases (r.sight_of_finish stands seen).symm.trans there
      | invalid => cases (r.sight_of_invalid stands seen).symm.trans there
      | token t next =>
        cases (r.sight_of_token stands seen).symm.trans there
        exact unmarked next seen
    rw [readTerm_of_unmarked unmarked, readTerm_of_unmarked unmarkedThere,
      r.readOperands_cursor stands]
    rcases c.readOperands [] with ⟨e | a, after⟩ <;> rfl

theorem sideMove_cursor (stands : c.StandsIn text) (side : Side) (state : SideState) :
    (r.cursor c).sideMove side state = r.move (c.sideMove side state) := by
  cases seen : c.sight with
  | invalid =>
    have there := r.sight_of_invalid stands seen
    simp [sideMove, seen, there, move, r.error_complain stands]
  | finish =>
    have there := r.sight_of_finish stands seen
    cases side <;> simp [sideMove, seen, there, move, r.error_complain stands]
  | token t after =>
    have there := r.sight_of_token stands seen
    by_cases turnstile : t = .glyph .turnstile
    · subst turnstile
      cases side <;> simp [sideMove, seen, there, move, r.error_complain stands]
    · rw [sideMove_of_token seen turnstile, sideMove_of_token there turnstile]
      have standsAfter := stands.next seen
      by_cases comma : t = .comma
      · simp only [comma, if_true]
        cases state with
        | empty | start => simp [move, r.error_complain stands]
        | terms last before =>
          -- Here the complaint stands behind the comma and not at the cursor.
          cases ahead : after.sight with
          | invalid =>
            simp [r.sight_of_invalid standsAfter ahead, move, r.error_complain standsAfter]
          | finish =>
            simp [r.sight_of_finish standsAfter ahead, move, r.error_complain standsAfter]
          | token u next => simp [r.sight_of_token standsAfter ahead, move]
      · simp only [comma, if_false]
        cases state <;> simp [move, r.error_complain stands]

theorem sideMove_of_term {side : Side} {state : SideState} {start : Cursor}
    (stands : c.StandsIn text) (moved : c.sideMove side state = .term start) :
    (r.cursor c).sideMove side state = .term (r.cursor start) := by
  rw [r.sideMove_cursor stands, moved, move]

theorem readSide_cursor (stands : c.StandsIn text) (side : Side) (state : SideState) :
    (r.cursor c).readSide side state = r.reading (c.readSide side state) := by
  fun_induction readSide side state c with
  | case1 state c after moved | case2 state c e last moved =>
    have there := r.sideMove_cursor stands side state
    rw [moved, move] at there
    rw [readSide]
    split <;> cases there.symm.trans ‹_›
    rfl
  | case3 state c start moved e last failed =>
    have standsThere : start.StandsIn text := (reaches_of_sideMove moved).standsIn stands
    rw [readSide_at_term (r.sideMove_of_term stands moved), r.readTerm_cursor standsThere, failed]
    rfl
  | case4 state c start moved term middle read refused =>
    have standsThere : start.StandsIn text := (reaches_of_sideMove moved).standsIn stands
    rw [readSide_at_term (r.sideMove_of_term stands moved), r.readTerm_cursor standsThere, read]
    simp [refused, r.error_complain standsThere]
  | case5 state c start moved term middle read next added ih =>
    have standsThere : start.StandsIn text := (reaches_of_sideMove moved).standsIn stands
    have standsMiddle : middle.StandsIn text := by
      simpa [read] using start.reaches_readTerm.standsIn standsThere
    rw [readSide_at_term (r.sideMove_of_term stands moved), r.readTerm_cursor standsThere, read]
    simp [added, ih standsMiddle]

/-- The same tokens read elsewhere make the same sequent, or the same complaint elsewhere. -/
theorem readSequent_cursor (stands : c.StandsIn text) :
    (r.cursor c).readSequent = r.reading c.readSequent := by
  have left := r.readSide_cursor stands .left .start
  have reached := c.reaches_readSide .left .start
  rcases read : c.readSide .left .start with ⟨e | formulas, middle⟩
  · simp [readSequent, left, read]
  · rw [read] at reached
    have right := r.readSide_cursor (reached.standsIn stands) .right .start
    rcases others : middle.readSide .right .start with ⟨e | formulas', after⟩ <;>
      simp [readSequent, left, read, right, others]

end Relocation

end Turnstile

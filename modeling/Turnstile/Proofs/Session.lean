import Turnstile.Proofs.Location
import Turnstile.Proofs.Stopping

/-! Sessions on the tokens of a text. Whatever operations are carried out, and whether they fail or
not, the cursor stays on the tokens of the one lexing of the text. From there the readers never
breach their checks, and they never miss a comma, because a term is read up to a place where it
can end. -/
namespace Turnstile

namespace OperandStack

variable {stack next : OperandStack} {complaint : Complaint}

theorem beforeOperand_eq_error (failed : stack.beforeOperand next = .error complaint) :
    complaint = .unexpectedItem := by
  unfold beforeOperand at failed
  split at failed <;> cases failed
  rfl

theorem afterOperand_eq_error (failed : stack.afterOperand next = .error complaint) :
    complaint = .unexpectedItem := by
  unfold afterOperand at failed
  split at failed <;> cases failed
  rfl

theorem shift_ne_commaExpected {t : Token} (failed : stack.shift t = .error complaint) :
    complaint ≠ .commaExpected := by
  rintro rfl
  cases t with
  | name n => cases beforeOperand_eq_error failed
  | opening => cases beforeOperand_eq_error failed
  | closing =>
    simp only [shift] at failed
    split at failed <;> cases failed
  | comma => cases failed
  | glyph g =>
    cases g with
    | neg => cases beforeOperand_eq_error failed
    | conj => cases afterOperand_eq_error failed
    | disj => cases afterOperand_eq_error failed
    | empty | turnstile => cases failed

theorem finish_ne_commaExpected (failed : stack.finish = .error complaint) :
    complaint ≠ .commaExpected := by
  rintro rfl
  unfold finish at failed
  split at failed <;> cases failed

end OperandStack

theorem Complaint.message_ne {complaint : Complaint} (other : complaint ≠ .commaExpected) :
    complaint.message ≠ "Comma expected" := by
  cases complaint with
  | commaExpected => exact (other rfl).elim
  | _ => decide

theorem Guarded.exists_complaint {α : Type} {r : Reading α} {f : Fault}
    (failed : (Guarded.ofReading r).1 = .error f) :
    ∃ e after, f = .complaint e ∧ r = (.error e, after) := by
  rcases r with ⟨e | a, after⟩
  · cases failed
    exact ⟨e, after, rfl, rfl⟩
  · cases failed

namespace Cursor

theorem readOperands_ne_commaExpected {stack : OperandStack} {c after : Cursor} {e : SyntaxError}
    (read : c.readOperands stack = (.error e, after)) : e.complaint ≠ .commaExpected := by
  fun_induction readOperands stack c with
  | case1 stack c seen =>
    cases read
    simp [complain]
  | case2 stack c seen =>
    obtain ⟨complaint, failed, rfl⟩ := finish_mapError_eq_error read
    exact OperandStack.finish_ne_commaExpected failed
  | case3 stack c t next seen ends =>
    obtain ⟨complaint, failed, rfl⟩ := finish_mapError_eq_error read
    exact OperandStack.finish_ne_commaExpected failed
  | case4 stack c t next seen inside complaint failed =>
    cases read
    exact OperandStack.shift_ne_commaExpected failed
  | case5 stack c t next seen inside further shifted ih => exact ih read

theorem readTerm_ne_commaExpected {c after : Cursor} {e : SyntaxError}
    (read : c.readTerm = (.error e, after)) : e.complaint ≠ .commaExpected := by
  unfold readTerm at read
  split at read
  · cases read
  · split at read
    · cases read
    · rename_i operands
      cases read
      exact readOperands_ne_commaExpected operands

/-- Where a term can end, a side goes on with a comma or does not go on at all. -/
theorem sideMove_ne_commaExpected {side : Side} {state : SideState} {c last : Cursor}
    {e : SyntaxError} (stopped : ∀ a before, state = .terms a before → c.EndsTerm)
    (move : c.sideMove side state = .complain e last) : e.complaint ≠ .commaExpected := by
  cases seen : c.sight with
  | invalid =>
    simp only [sideMove, seen] at move
    cases move
    simp [complain]
  | finish =>
    cases side with
    | left =>
      simp only [sideMove, seen] at move
      cases move
      simp [complain]
    | right => simp [sideMove, seen] at move
  | token t after =>
    by_cases turnstile : t = .glyph .turnstile
    · subst turnstile
      cases side with
      | left => simp [sideMove, seen] at move
      | right =>
        simp only [sideMove, seen] at move
        cases move
        simp [complain]
    · rw [sideMove_of_token seen turnstile] at move
      cases state with
      | empty =>
        cases move
        cases side <;> simp [complain]
      | start =>
        by_cases comma : t = .comma
        · simp only [comma, if_true] at move
          cases move
          cases side <;> simp [complain]
        · simp [comma] at move
      | terms a before =>
        have comma : t = .comma := by
          rcases stopped a before rfl with ended | ⟨u, next, other, ends⟩
          · cases seen.symm.trans ended
          · cases seen.symm.trans other
            exact (Token.eq_of_endsTerm ends).resolve_right turnstile
        simp only [comma, if_true] at move
        split at move
        · cases move
          simp [complain]
        · cases move
          simp [complain]
        · cases move

theorem readSide_ne_commaExpected {side : Side} {state : SideState} {c after : Cursor}
    {e : SyntaxError} (stopped : ∀ a before, state = .terms a before → c.EndsTerm)
    (read : c.readSide side state = (.error e, after)) : e.complaint ≠ .commaExpected := by
  fun_induction readSide side state c with
  | case1 => cases read
  | case2 state c e' last move =>
    cases read
    exact sideMove_ne_commaExpected stopped move
  | case3 state c start move e' last failed =>
    cases read
    exact readTerm_ne_commaExpected failed
  | case4 state c start move term middle read' refused =>
    cases read
    simp [complain]
  | case5 state c start move term middle read' next added ih =>
    refine ih (fun a before terms => ?_) read
    subst terms
    cases term with
    | none => cases state <;> cases added
    | some b =>
      obtain ⟨_, _, _, ending⟩ := readTerm_eq_some_iff.mp read'
      exact ending

theorem readSequent_ne_commaExpected {c after : Cursor} {e : SyntaxError}
    (read : c.readSequent = (.error e, after)) : e.complaint ≠ .commaExpected := by
  unfold readSequent at read
  split at read
  · rename_i failed
    cases read
    exact readSide_ne_commaExpected (by simp) failed
  · split at read
    · rename_i failed
      cases read
      exact readSide_ne_commaExpected (by simp) failed
    · cases read

theorem drain_eq (c : Cursor) :
    c.drain.1 =
      if c.lex.complete then .ok c.lex.plain else .error ⟨.invalidSymbol, c.lex.stop⟩ := by
  fun_induction drain c with
  | case1 c seen => simp [lex_of_finish seen, Lexing.plain]
  | case2 c seen => simp [lex_of_invalid seen, complain]
  | case3 c t after seen rest last drained ih =>
    rw [drained] at ih
    simp only [lex_of_token seen, Lexing.plain, List.map_cons] at ih ⊢
    split at ih
    · cases ih
      simp [*]
    · cases ih
  | case4 c t after seen e last drained ih =>
    rw [drained] at ih
    simp only [lex_of_token seen] at ih ⊢
    split at ih
    · cases ih
    · cases ih
      simp [*]

theorem perform_drain (c : Cursor) :
    (c.perform .drain).1 = if c.lex.complete then .ok (c.lex.plain.map Token.text)
      else .error (.complaint ⟨.invalidSymbol, c.lex.stop⟩) := by
  have drained := c.drain_eq
  rcases same : c.drain with ⟨e | ts, after⟩
  · by_cases complete : c.lex.complete = true
    · simp [same, complete] at drained
    · simpa [perform, same, complete] using drained
  · by_cases complete : c.lex.complete = true
    · simp only [same, complete, if_true] at drained
      cases drained
      simp [perform, same, complete]
    · simp [same, complete] at drained

/-- A cursor at a token of a text, at its first character that starts none, or at its end. The
tokens that are seen from there are the last ones of the text. -/
structure OnTokens (text : String) (c : Cursor) : Prop where
  place : (∃ t, (t, c.offset) ∈ (ofString text).lex.tokens) ∨
    ((ofString text).lex.complete = false ∧ c.offset = (ofString text).lex.stop) ∨
      c.offset = text.length
  ahead : ∃ passed, (ofString text).lex = { c.lex with tokens := passed ++ c.lex.tokens }

theorem onTokens_of_reaches {text : String} {c : Cursor} (reached : (ofString text).Reaches c) :
    OnTokens text c := by
  obtain ⟨ts, passes⟩ := reached
  obtain ⟨passed, ahead⟩ := passes.lex
  refine ⟨?_, passed, ahead⟩
  have stands := passes.standsIn (standsIn_ofString text)
  rw [ahead]
  cases seen : c.sight with
  | finish =>
    have stop := stands.stop_eq_length (by rw [lex_of_finish seen])
    rw [lex_of_finish seen] at stop
    exact .inr (.inr stop)
  | invalid => exact .inr (.inl (by simp [lex_of_invalid seen]))
  | token t next => exact .inl ⟨t, by simp [lex_of_token seen]⟩

theorem perform_readTerm (c : Cursor) : c.perform .readTerm = .ofReading c.readTerm :=
  c.guardedTerm_eq

theorem perform_readSequent (c : Cursor) : c.perform .readSequent = .ofReading c.readSequent :=
  c.guardedSequent_eq

/-- A reader fails by a complaint about the text, and never for want of a comma. -/
theorem complaint_of_reader (c : Cursor) {f : Fault}
    (failed : (c.perform .readTerm).1 = .error f ∨ (c.perform .readSequent).1 = .error f) :
    ∃ e, f = .complaint e ∧ e.complaint.message ≠ "Comma expected" := by
  rcases failed with failed | failed
  · rw [perform_readTerm] at failed
    obtain ⟨e, after, rfl, read⟩ := Guarded.exists_complaint failed
    exact ⟨e, rfl, Complaint.message_ne (readTerm_ne_commaExpected read)⟩
  · rw [perform_readSequent] at failed
    obtain ⟨e, after, rfl, read⟩ := Guarded.exists_complaint failed
    exact ⟨e, rfl, Complaint.message_ne (readSequent_ne_commaExpected read)⟩

theorem peek_of_readTerm {c after : Cursor} {a : Formula}
    (read : c.perform .readTerm = (.ok (some a), after)) :
    (after.perform .peek).1 = .ok none ∨ (after.perform .peek).1 = .ok (some ",") ∨
      (after.perform .peek).1 = .ok (some "⊦") := by
  rw [perform_readTerm] at read
  obtain ⟨_, _, _, ending⟩ := readTerm_eq_some_iff.mp (Guarded.ofReading_eq_ok_iff.mp read)
  rcases ending with seen | ⟨t, next, seen, ends⟩
  · exact .inl (look_of_finish seen)
  · rcases Token.eq_of_endsTerm ends with rfl | rfl
    · exact .inr (.inl (look_of_token seen))
    · exact .inr (.inr (look_of_token seen))

theorem take_of_readTerm {c after : Cursor} (read : c.perform .readTerm = (.ok none, after)) :
    c.perform .take = (.ok "∅", after) := by
  rw [perform_readTerm] at read
  have seen := readTerm_eq_none_iff.mp (Guarded.ofReading_eq_ok_iff.mp read)
  simp only [perform, grab, take, seen]
  rfl

/-- Wherever a session has led, the cursor is on the tokens of the text and sees the last of them;
no operation moves it back, and to look moves it not at all. A reader started there breaches no
check and never misses a comma, a term that it returns ends before a comma, before a turnstile or
at the end, and for the mark of an empty side it takes that one token. -/
theorem session_invariant (text : String) (ops : List Operation) :
    let c := (ofString text).run ops
    OnTokens text c ∧
    (c.perform .drain).1 = (if c.lex.complete then .ok (c.lex.plain.map Token.text)
      else .error (.complaint ⟨.invalidSymbol, c.lex.stop⟩)) ∧
    (∀ op, c.offset ≤ (c.perform op).2.offset) ∧
    (c.perform .peek).2 = c ∧ (c.perform .atEnd).2 = c ∧
    (∀ f, (c.perform .readTerm).1 = .error f ∨ (c.perform .readSequent).1 = .error f →
      ∃ e, f = .complaint e ∧ e.complaint.message ≠ "Comma expected") ∧
    (∀ a after, c.perform .readTerm = (.ok (some a), after) →
      (after.perform .peek).1 = .ok none ∨ (after.perform .peek).1 = .ok (some ",") ∨
        (after.perform .peek).1 = .ok (some "⊦")) ∧
    ∀ after, c.perform .readTerm = (.ok none, after) → c.perform .take = (.ok "∅", after) := by
  intro c
  refine ⟨onTokens_of_reaches ((ofString text).reaches_run ops), c.perform_drain, ?_, rfl, rfl, ?_,
    ?_, ?_⟩
  · intro op
    obtain ⟨ts, passes⟩ := c.reaches_perform op
    exact passes.offset_le
  · intro f failed
    exact c.complaint_of_reader failed
  · intro a after read
    exact peek_of_readTerm read
  · intro after read
    exact take_of_readTerm read

end Cursor

end Turnstile

import Turnstile.Proofs.Reading
import Turnstile.Session

/-! Where reading stops. A reader moves its cursor only by passing tokens, whether it succeeds or
not. So wherever the operations of a session have led, the rest of the text's tokens are seen from
there, and the readers can be used again. -/
namespace Turnstile.Cursor

theorem offset_le_skipBlanks (c : Cursor) : c.offset ≤ c.skipBlanks.offset :=
  Nat.le_add_right _ _

theorem sight_offset {c after : Cursor} {t : Token} (seen : c.sight = .token t after) :
    c.offset < after.offset := by
  rcases sight_eq_token seen with
    ⟨first, word, rest, _, _, _, _, _, rfl⟩ | ⟨first, rest, _, _, rfl⟩
  · have moved := offset_le_skipBlanks ⟨c.offset + (word.length + 1), rest⟩
    simp only at moved
    omega
  · have moved := offset_le_skipBlanks ⟨c.offset + 1, rest⟩
    simp only at moved
    omega

namespace Passes

variable {c last : Cursor} {ts : List Token}

theorem offset_le (passes : c.Passes ts last) : c.offset ≤ last.offset := by
  induction passes with
  | stay c => exact Nat.le_refl _
  | token seen _ ih => exact Nat.le_trans (Nat.le_of_lt (sight_offset seen)) ih

theorem standsIn {text : String} (passes : c.Passes ts last) (stands : StandsIn text c) :
    StandsIn text last := by
  induction passes with
  | stay c => exact stands
  | token seen _ ih => exact ih (stands.next seen)

/-- The tokens that are seen after some have been passed are the rest of those seen before. -/
theorem lex (passes : c.Passes ts last) :
    ∃ passed, c.lex = { last.lex with tokens := passed ++ last.lex.tokens } := by
  induction passes with
  | stay c => exact ⟨[], rfl⟩
  | @token c next last t ts seen _ ih =>
    obtain ⟨passed, rest⟩ := ih
    exact ⟨(t, c.offset) :: passed, by rw [lex_of_token seen, rest]; rfl⟩

end Passes

/-- A cursor that can be reached by passing tokens. -/
def Reaches (c last : Cursor) : Prop :=
  ∃ ts, c.Passes ts last

namespace Reaches

theorem refl (c : Cursor) : c.Reaches c :=
  ⟨[], .stay c⟩

theorem of_token {c after : Cursor} {t : Token} (seen : c.sight = .token t after) :
    c.Reaches after :=
  ⟨[t], .token seen (.stay after)⟩

theorem trans {c middle last : Cursor} (first : c.Reaches middle) (second : middle.Reaches last) :
    c.Reaches last := by
  obtain ⟨ts, passes⟩ := first
  obtain ⟨us, more⟩ := second
  exact ⟨ts ++ us, passes_append_iff.mpr ⟨middle, passes, more⟩⟩

theorem standsIn {text : String} {c last : Cursor} (reaches : c.Reaches last)
    (stands : StandsIn text c) : StandsIn text last := by
  obtain ⟨ts, passes⟩ := reaches
  exact passes.standsIn stands

end Reaches

theorem reaches_readOperands (stack : OperandStack) (c : Cursor) :
    c.Reaches (c.readOperands stack).2 := by
  fun_induction readOperands stack c with
  | case1 | case2 | case3 | case4 => exact .refl _
  | case5 stack c t after seen inside next shifted ih => exact (Reaches.of_token seen).trans ih

theorem reaches_readTerm (c : Cursor) : c.Reaches c.readTerm.2 := by
  unfold readTerm
  split
  · rename_i after seen
    exact .of_token seen
  · have reached := c.reaches_readOperands []
    split <;> simpa [*] using reached

/-- The cursor that a move leaves behind. -/
def SideMove.cursor : SideMove → Cursor
  | stop after => after
  | term start => start
  | complain _ last => last

theorem reaches_sideMove (side : Side) (state : SideState) (c : Cursor) :
    c.Reaches (c.sideMove side state).cursor := by
  cases seen : c.sight with
  | invalid => simpa [sideMove, seen, SideMove.cursor] using Reaches.refl c
  | finish => cases side <;> simpa [sideMove, seen, SideMove.cursor] using Reaches.refl c
  | token t after =>
    have moved : c.Reaches after := .of_token seen
    by_cases turnstile : t = .glyph .turnstile
    · subst turnstile
      cases side with
      | left => simpa [sideMove, seen, SideMove.cursor] using moved
      | right => simpa [sideMove, seen, SideMove.cursor] using Reaches.refl c
    · rw [sideMove_of_token seen turnstile]
      by_cases comma : t = .comma
      · simp only [comma, if_true]
        cases state with
        | empty | start => exact .refl c
        | terms last before => cases after.sight <;> exact moved
      · simp only [comma, if_false]
        cases state <;> exact .refl c

theorem reaches_of_sideMove {side : Side} {state : SideState} {c : Cursor} {m : SideMove}
    (moved : c.sideMove side state = m) : c.Reaches m.cursor := by
  rw [← moved]
  exact c.reaches_sideMove side state

theorem reaches_readSide (side : Side) (state : SideState) (c : Cursor) :
    c.Reaches (c.readSide side state).2 := by
  fun_induction readSide side state c with
  | case1 state c after moved | case2 state c e after moved => exact reaches_of_sideMove moved
  | case3 state c start moved e after read | case4 state c start moved term after read refused =>
    have first : c.Reaches start := reaches_of_sideMove moved
    have second : start.Reaches after := by simpa [read] using start.reaches_readTerm
    exact first.trans second
  | case5 state c start moved term after read next added ih =>
    have first : c.Reaches start := reaches_of_sideMove moved
    have second : start.Reaches after := by simpa [read] using start.reaches_readTerm
    exact (first.trans second).trans ih

theorem reaches_readSequent (c : Cursor) : c.Reaches c.readSequent.2 := by
  have left := c.reaches_readSide .left .start
  unfold readSequent
  split
  · rename_i read
    simpa [read] using left
  · rename_i formulas middle read
    have right := middle.reaches_readSide .right .start
    have first : c.Reaches middle := by simpa [read] using left
    split <;> simpa [*] using first.trans right

theorem reaches_drain (c : Cursor) : c.Reaches c.drain.2 := by
  fun_induction drain c with
  | case1 c seen | case2 c seen => exact .refl c
  | case3 c t after seen rest last drained ih | case4 c t after seen e last drained ih =>
    have rest : after.Reaches last := by simpa [drained] using ih
    exact (Reaches.of_token seen).trans rest

theorem reaches_take (c : Cursor) : c.Reaches c.take.2 := by
  unfold take
  split
  · exact .refl c
  · exact .refl c
  · exact .of_token ‹_›

/-- Every operation passes tokens, and does nothing else to the cursor. -/
theorem reaches_perform (c : Cursor) (op : Operation) : c.Reaches (c.perform op).2 := by
  cases op with
  | peek => exact .refl c
  | atEnd => exact .refl c
  | take =>
    have taken := c.reaches_take
    rcases same : c.take with ⟨e | t, after⟩ <;> simpa [perform, grab, same] using taken
  | consume expected =>
    have taken := c.reaches_take
    rcases same : c.take with ⟨e | t, after⟩
    · simpa [perform, expect, consume, same] using taken
    · by_cases expected : t.text = expected <;>
        simpa [perform, expect, consume, same, expected] using taken
  | drain =>
    have drained := c.reaches_drain
    rcases same : c.drain with ⟨e | ts, after⟩ <;> simpa [perform, same] using drained
  | readTerm =>
    have read := c.reaches_readTerm
    rw [perform, guardedTerm_eq]
    exact read
  | readSequent =>
    have read := c.reaches_readSequent
    rw [perform, guardedSequent_eq]
    exact read

theorem reaches_run (c : Cursor) (ops : List Operation) : c.Reaches (c.run ops) := by
  induction ops generalizing c with
  | nil => exact .refl c
  | cons op ops ih => exact (c.reaches_perform op).trans (ih (c.perform op).2)

end Turnstile.Cursor

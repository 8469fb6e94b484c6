import Turnstile.Parsing
import Turnstile.Proofs.Lexing
import Turnstile.Proofs.Phrases

/-! Reading against the grammar. A reader succeeds exactly where the tokens that the cursor
passes are derivable, and returns what the derivation means; so a text can be read if and only
if it spells a sequent of the grammar. -/
namespace Turnstile

open Grammar

namespace Cursor

/-- Where a term can end. -/
def EndsTerm (c : Cursor) : Prop :=
  c.sight = .finish ∨ ∃ t next, c.sight = .token t next ∧ t.endsTerm = true

theorem finish_mapError_eq_iff {stack : OperandStack} {c after : Cursor} {a : Formula} :
    ((stack.finish.mapError c.complain, c) : Reading Formula) = (.ok a, after) ↔
      stack.finish = .ok a ∧ after = c := by
  cases stack.finish with
  | error e =>
    change ((.error (c.complain e), c) : Reading Formula) = (.ok a, after) ↔ _
    simp
  | ok b =>
    change ((.ok b, c) : Reading Formula) = (.ok a, after) ↔ _
    simp [eq_comm]

theorem readOperands_eq_ok {stack : OperandStack} {c after : Cursor} {a : Formula}
    (read : c.readOperands stack = (.ok a, after)) :
    ∃ ts last, c.Passes ts after ∧ stack.shiftAll ts = .ok last ∧ last.finish = .ok a ∧
      after.EndsTerm := by
  fun_induction readOperands stack c with
  | case1 => cases read
  | case2 stack c seen =>
    obtain ⟨finished, rfl⟩ := finish_mapError_eq_iff.mp read
    exact ⟨[], stack, .stay _, rfl, finished, .inl seen⟩
  | case3 stack c t next seen ends =>
    obtain ⟨finished, rfl⟩ := finish_mapError_eq_iff.mp read
    exact ⟨[], stack, .stay _, rfl, finished, .inr ⟨t, next, seen, ends⟩⟩
  | case4 => cases read
  | case5 stack c t after' seen ends next shifted ih =>
    obtain ⟨ts, last, passes, rest, finished, ending⟩ := ih read
    refine ⟨t :: ts, last, .token seen passes, ?_, finished, ending⟩
    rw [OperandStack.shiftAll_cons ts shifted, rest]

theorem Passes.readOperands {stack last : OperandStack} {c after : Cursor} {ts : List Token}
    {a : Formula} (passes : c.Passes ts after) (shifted : stack.shiftAll ts = .ok last)
    (finished : last.finish = .ok a) (ending : after.EndsTerm) :
    c.readOperands stack = (.ok a, after) := by
  induction passes generalizing stack with
  | stay c =>
    cases shifted
    have stops := finish_mapError_eq_iff.mpr ⟨finished, Eq.refl c⟩
    unfold Cursor.readOperands
    rcases ending with seen | ⟨t, next, seen, ends⟩
    · split <;> simp_all
    · split <;> simp_all
  | @token c next after t ts seen _ ih =>
    obtain ⟨middle, first, rest⟩ := OperandStack.shiftAll_cons_eq_ok_iff.mp shifted
    -- No stack takes in a token that ends a term, so the reader goes on here.
    have inside := OperandStack.endsTerm_of_shift first
    unfold Cursor.readOperands
    split <;> simp_all

theorem readTerm_eq_some_iff {c after : Cursor} {a : Formula} :
    c.readTerm = (.ok (some a), after) ↔
      ∃ ts, c.Passes ts after ∧ Phrase .term ts a ∧ after.EndsTerm := by
  constructor
  · intro read
    unfold readTerm at read
    split at read
    · cases read
    · split at read
      · rename_i operands
        cases read
        obtain ⟨ts, last, passes, shifted, finished, ending⟩ := readOperands_eq_ok operands
        exact ⟨ts, passes, OperandStack.finish_iff_phrase.mp ⟨last, shifted, finished⟩, ending⟩
      · cases read
  · rintro ⟨ts, passes, phrase, ending⟩
    obtain ⟨last, shifted, finished⟩ := OperandStack.finish_iff_phrase.mpr phrase
    obtain ⟨t, rest, next, rfl, first⟩ := OperandStack.exists_shift_of_phrase phrase
    have operands := passes.readOperands shifted finished ending
    obtain ⟨middle, seen, _⟩ := passes_cons_iff.mp passes
    unfold readTerm
    split
    · rename_i mark
      rw [seen] at mark
      cases mark
      cases first
    · rw [operands]

theorem readTerm_eq_none_iff {c after : Cursor} :
    c.readTerm = (.ok none, after) ↔ c.sight = .token (.glyph .empty) after := by
  unfold readTerm
  split
  · rename_i next seen
    rw [seen]
    simp
  · rename_i other
    constructor
    · intro read
      split at read <;> cases read
    · intro seen
      exact (other after seen).elim

/-- The tokens that close a side. The right side is closed by the end of the text. -/
def closingTokens : Side → List Token
  | .left => [.glyph .turnstile]
  | .right => []

/-- A cursor passes the rest of a side, up to and with what closes it. -/
def Closes (side : Side) (c : Cursor) (ts : List Token) (after : Cursor) : Prop :=
  c.Passes (ts ++ closingTokens side) after ∧ (side = .right → after.sight = .finish)

theorem Closes.endsTerm {side : Side} {c after : Cursor} (closes : Closes side c [] after) :
    c.EndsTerm := by
  obtain ⟨passes, finished⟩ := closes
  cases side with
  | left =>
    obtain ⟨next, seen, _⟩ := passes_cons_iff.mp passes
    exact .inr ⟨_, next, seen, rfl⟩
  | right =>
    obtain rfl := passes_nil_iff.mp passes
    exact .inl (finished rfl)

theorem closes_append_iff {side : Side} {c after : Cursor} {ts us : List Token} :
    Closes side c (ts ++ us) after ↔
      ∃ middle, c.Passes ts middle ∧ Closes side middle us after := by
  rw [Closes, List.append_assoc, passes_append_iff]
  simp only [Closes, ← and_assoc, exists_and_right]

theorem closes_cons_iff {side : Side} {c after : Cursor} {t : Token} {ts : List Token} :
    Closes side c (t :: ts) after ↔
      ∃ next, c.sight = .token t next ∧ Closes side next ts after := by
  simp only [Closes, List.cons_append, passes_cons_iff, ← and_assoc, exists_and_right]

theorem sideMove_eq_stop_iff {side : Side} {state : SideState} {c after : Cursor} :
    c.sideMove side state = .stop after ↔ Closes side c [] after := by
  constructor
  · intro move
    unfold sideMove at move
    split at move
    · cases move
    · cases move
    · rename_i seen
      cases move
      exact ⟨.stay _, fun _ => seen⟩
    · rename_i seen
      cases move
      exact ⟨.token seen (.stay _), nofun⟩
    · cases move
    · split at move
      · cases move
      · split at move
        · split at move <;> cases move
        · cases move
      · split at move <;> cases move
  · rintro ⟨passes, finished⟩
    cases side with
    | left =>
      obtain ⟨next, seen, stays⟩ := passes_cons_iff.mp passes
      obtain rfl := passes_nil_iff.mp stays
      simp [sideMove, seen]
    | right =>
      obtain rfl := passes_nil_iff.mp passes
      simp [sideMove, finished rfl]

/-- A side goes on with its first term or, behind a comma, with a further one. -/
theorem sideMove_eq_term {side : Side} {state : SideState} {c start : Cursor}
    (move : c.sideMove side state = .term start) :
    (state = .start ∧ start = c) ∨
      ∃ last before, state = .terms last before ∧ c.sight = .token .comma start := by
  unfold sideMove at move
  split at move
  · cases move
  · cases move
  · cases move
  · cases move
  · cases move
  · rename_i seen
    split at move
    · cases move
    · split at move
      · rename_i same
        subst same
        split at move
        · cases move
        · cases move
        · cases move
          exact .inr ⟨_, _, rfl, seen⟩
      · cases move
    · split at move
      · cases move
      · cases move
        exact .inl ⟨rfl, rfl⟩

theorem sideMove_start {side : Side} {c next : Cursor} {t : Token}
    (seen : c.sight = .token t next) (inside : t.endsTerm = false) :
    c.sideMove side .start = .term c := by
  cases t with
  | comma => cases inside
  | glyph g =>
    cases g with
    | turnstile => cases inside
    | empty | neg | conj | disj => simp [sideMove, seen]
  | name | opening | closing => simp [sideMove, seen]

theorem sideMove_terms {side : Side} {last : Formula} {before : List Formula}
    {c next after : Cursor} {t : Token} (seen : c.sight = .token .comma next)
    (following : next.sight = .token t after) :
    c.sideMove side (.terms last before) = .term next := by
  simp [sideMove, seen, following]

theorem readSide_of_closes {side : Side} (state : SideState) {c after : Cursor}
    (closes : Closes side c [] after) : c.readSide side state = (.ok state.formulas, after) := by
  have move : c.sideMove side state = .stop after := sideMove_eq_stop_iff.mpr closes
  unfold readSide
  split <;> simp_all

theorem readSide_of_term {side : Side} {state next : SideState} {c start middle : Cursor}
    {term : Option Formula} (move : c.sideMove side state = .term start)
    (read : start.readTerm = (.ok term, middle)) (added : state.add? term = some next) :
    c.readSide side state = middle.readSide side next := by
  rw [readSide]
  split <;> simp_all
  split <;> simp_all

/-- What may follow where a side has been read to some state, and all formulas of the side. -/
inductive SideRest : SideState → List Token → List Formula → Prop where
  | start {ts : List Token} {side : List Formula} : WrittenSide ts side → SideRest .start ts side
  | empty : SideRest .empty [] []
  | stop (last : Formula) (before : List Formula) :
      SideRest (.terms last before) [] (last :: before).reverse
  | more {ts : List Token} {others : List Formula} (last : Formula) (before : List Formula) :
      Terms ts others →
        SideRest (.terms last before) (.comma :: ts) ((last :: before).reverse ++ others)

theorem sideRest_nil (state : SideState) : SideRest state [] state.formulas := by
  cases state with
  | start => exact .start .nothing
  | empty => exact .empty
  | terms last before => exact .stop last before

theorem SideRest.terms {us ts : List Token} {a : Formula} {before formulas : List Formula}
    (rest : SideRest (.terms a before) ts formulas) (phrase : Phrase .term us a) :
    ∃ others, formulas = before.reverse ++ others ∧ Terms (us ++ ts) others := by
  cases rest with
  | stop => exact ⟨[a], by simp, by simpa using Terms.one phrase⟩
  | @more ts others _ _ terms => exact ⟨a :: others, by simp, .cons phrase terms⟩

theorem readSide_eq_ok {side : Side} {state : SideState} {c after : Cursor}
    {formulas : List Formula} (read : c.readSide side state = (.ok formulas, after)) :
    ∃ ts, Closes side c ts after ∧ SideRest state ts formulas := by
  fun_induction readSide side state c with
  | case1 state c after' move =>
    cases read
    exact ⟨[], sideMove_eq_stop_iff.mp move, sideRest_nil state⟩
  | case2 => cases read
  | case3 => cases read
  | case4 => cases read
  | case5 state c start move term middle read' next added ih =>
    obtain ⟨ts, closes, rest⟩ := ih read
    rcases sideMove_eq_term move with ⟨rfl, rfl⟩ | ⟨last, before, rfl, comma⟩
    · cases term with
      | none =>
        cases added
        cases rest
        have seen := readTerm_eq_none_iff.mp read'
        exact ⟨[.glyph .empty], closes_cons_iff.mpr ⟨middle, seen, closes⟩, .start .empty⟩
      | some a =>
        cases added
        obtain ⟨us, passes, phrase, _⟩ := readTerm_eq_some_iff.mp read'
        obtain ⟨others, rfl, terms⟩ := rest.terms phrase
        exact ⟨us ++ ts, closes_append_iff.mpr ⟨middle, passes, closes⟩, .start (.terms terms)⟩
    · cases term with
      | none => cases added
      | some a =>
        cases added
        obtain ⟨us, passes, phrase, _⟩ := readTerm_eq_some_iff.mp read'
        obtain ⟨others, rfl, terms⟩ := rest.terms phrase
        have closes := closes_append_iff.mpr ⟨middle, passes, closes⟩
        exact ⟨.comma :: (us ++ ts), closes_cons_iff.mpr ⟨start, comma, closes⟩,
          .more last before terms⟩

theorem exists_shift_of_terms {ts : List Token} {others : List Formula} (terms : Terms ts others) :
    ∃ t rest next, ts = t :: rest ∧ OperandStack.shift [] t = .ok next := by
  cases terms with
  | one phrase => exact OperandStack.exists_shift_of_phrase phrase
  | cons phrase _ =>
    obtain ⟨t, rest, next, rfl, first⟩ := OperandStack.exists_shift_of_phrase phrase
    exact ⟨t, _, next, rfl, first⟩

/-- Reads the terms that are left, from where the next of them starts. The formulas read so far
grow by one with every term, so they are free in the induction. -/
theorem readSide_of_terms {side : Side} {ts : List Token} {others : List Formula}
    (terms : Terms ts others) {state : SideState} {before : List Formula} {c start after : Cursor}
    (move : c.sideMove side state = .term start)
    (added : ∀ a, state.add? (some a) = some (.terms a before))
    (closes : Closes side start ts after) :
    c.readSide side state = (.ok (before.reverse ++ others), after) := by
  induction terms generalizing state before c start with
  | @one ts a phrase =>
    rw [← List.append_nil ts] at closes
    obtain ⟨middle, passes, closes⟩ := closes_append_iff.mp closes
    have read := readTerm_eq_some_iff.mpr ⟨ts, passes, phrase, closes.endsTerm⟩
    rw [readSide_of_term move read (added a), readSide_of_closes _ closes]
    simp [SideState.formulas]
  | @cons ts us a others phrase terms ih =>
    obtain ⟨middle, passes, closes⟩ := closes_append_iff.mp closes
    obtain ⟨next, comma, closes⟩ := closes_cons_iff.mp closes
    have read := readTerm_eq_some_iff.mpr ⟨ts, passes, phrase, .inr ⟨_, next, comma, rfl⟩⟩
    obtain ⟨t, rest, _, rfl, _⟩ := exists_shift_of_terms terms
    obtain ⟨_, seen, _⟩ := closes_cons_iff.mp closes
    rw [readSide_of_term move read (added a),
      ih (sideMove_terms comma seen) (fun b => rfl) closes]
    simp

theorem readSide_eq_ok_iff {side : Side} {state : SideState} {c after : Cursor}
    {formulas : List Formula} :
    c.readSide side state = (.ok formulas, after) ↔
      ∃ ts, Closes side c ts after ∧ SideRest state ts formulas := by
  refine ⟨readSide_eq_ok, ?_⟩
  rintro ⟨ts, closes, rest⟩
  cases rest with
  | start written =>
    cases written with
    | nothing => exact readSide_of_closes .start closes
    | empty =>
      obtain ⟨middle, seen, closes⟩ := closes_cons_iff.mp closes
      rw [readSide_of_term (sideMove_start seen rfl) (readTerm_eq_none_iff.mpr seen) rfl]
      exact readSide_of_closes .empty closes
    | terms terms =>
      obtain ⟨t, rest, next, rfl, first⟩ := exists_shift_of_terms terms
      obtain ⟨middle, seen, _⟩ := closes_cons_iff.mp closes
      have inside := OperandStack.endsTerm_of_shift first
      exact readSide_of_terms terms (sideMove_start seen inside) (fun a => rfl) closes
  | empty => exact readSide_of_closes .empty closes
  | stop last before => exact readSide_of_closes (.terms last before) closes
  | more last before terms =>
    obtain ⟨start, comma, closes⟩ := closes_cons_iff.mp closes
    obtain ⟨t, rest, _, rfl, _⟩ := exists_shift_of_terms terms
    obtain ⟨_, seen, _⟩ := closes_cons_iff.mp closes
    exact readSide_of_terms terms (sideMove_terms comma seen) (fun a => rfl) closes

theorem readSequent_eq_ok_iff {c after : Cursor} {s : Sequent} :
    c.readSequent = (.ok s, after) ↔
      ∃ ts, c.Passes ts after ∧ after.sight = .finish ∧ WrittenSequent ts s := by
  constructor
  · intro read
    unfold readSequent at read
    split at read
    · cases read
    · rename_i left middle readLeft
      split at read
      · cases read
      · rename_i right last readRight
        cases read
        obtain ⟨ts, ⟨first, _⟩, ⟨writtenLeft⟩⟩ := readSide_eq_ok readLeft
        obtain ⟨us, ⟨second, finished⟩, ⟨writtenRight⟩⟩ := readSide_eq_ok readRight
        refine ⟨ts ++ .glyph .turnstile :: us, ?_, finished rfl, .mk writtenLeft writtenRight⟩
        have passes := passes_append_iff.mpr ⟨middle, first, second⟩
        simpa [closingTokens] using passes
  · rintro ⟨_, passes, finished, ⟨writtenLeft, writtenRight⟩⟩
    rename_i ts us left right
    obtain ⟨first, passesLeft, passes⟩ := passes_append_iff.mp passes
    obtain ⟨middle, seen, passesRight⟩ := passes_cons_iff.mp passes
    have closesLeft : Closes .left c ts middle :=
      ⟨passes_append_iff.mpr ⟨first, passesLeft, .token seen (.stay _)⟩, nofun⟩
    have closesRight : Closes .right middle us after :=
      ⟨by simpa [closingTokens] using passesRight, fun _ => finished⟩
    have readLeft := readSide_eq_ok_iff.mpr ⟨ts, closesLeft, .start writtenLeft⟩
    have readRight := readSide_eq_ok_iff.mpr ⟨us, closesRight, .start writtenRight⟩
    simp [readSequent, readLeft, readRight]

end Cursor

/-- A text is read as a formula exactly where it spells tokens that mean the formula. -/
theorem Formula.parse_eq_ok_iff {text : String} {a : Formula} :
    parse text = .ok a ↔ ∃ ts, Spells text.toList ts ∧ Phrase .term ts a := by
  constructor
  · intro parsed
    unfold parse at parsed
    split at parsed
    · cases parsed
    · cases parsed
    · rename_i b after read
      split at parsed
      · rename_i finished
        cases parsed
        obtain ⟨ts, passes, phrase, _⟩ := Cursor.readTerm_eq_some_iff.mp read
        have seen := Cursor.sight_eq_finish_iff.mpr (List.isEmpty_iff.mp finished)
        exact ⟨ts, Cursor.spells_iff_passes.mpr ⟨after, passes, seen⟩, phrase⟩
      · cases parsed
  · rintro ⟨ts, spells, phrase⟩
    obtain ⟨after, passes, seen⟩ := Cursor.spells_iff_passes.mp spells
    have read := Cursor.readTerm_eq_some_iff.mpr ⟨ts, passes, phrase, .inl seen⟩
    have finished := List.isEmpty_iff.mpr (Cursor.sight_eq_finish_iff.mp seen)
    simp [parse, read, Cursor.atEnd, finished]

namespace Sequent

/-- A text is read as a sequent exactly where it spells tokens that mean the sequent. -/
theorem parse_eq_ok_iff {text : String} {s : Sequent} :
    parse text = .ok s ↔ ∃ ts, Spells text.toList ts ∧ WrittenSequent ts s := by
  have read : parse text = .ok s ↔
      ∃ after, (Cursor.ofString text).readSequent = (.ok s, after) := by
    constructor
    · intro parsed
      exact ⟨(Cursor.ofString text).readSequent.2, Prod.ext parsed rfl⟩
    · rintro ⟨after, read⟩
      simp [parse, read]
  simp only [read, Cursor.readSequent_eq_ok_iff, Cursor.spells_iff_passes]
  constructor
  · rintro ⟨after, ts, passes, finished, written⟩
    exact ⟨ts, ⟨after, passes, finished⟩, written⟩
  · rintro ⟨ts, ⟨after, passes, finished⟩, written⟩
    exact ⟨after, ts, passes, finished, written⟩

/-- Reading accepts exactly the texts of the grammar, returns what they mean, and refuses all
others with a located complaint. -/
theorem parse_exact (text : String) :
    (∀ s, parse text = .ok s ↔ ∃ ts, Spells text.toList ts ∧ WrittenSequent ts s) ∧
      ((∃ e : SyntaxError, parse text = .error e) ↔
        ∀ ts, Spells text.toList ts → ∀ s, ¬WrittenSequent ts s) := by
  refine ⟨fun s => parse_eq_ok_iff, ?_⟩
  constructor
  · rintro ⟨e, refused⟩ ts spells s written
    have parsed := parse_eq_ok_iff.mpr ⟨ts, spells, written⟩
    cases refused.symm.trans parsed
  · intro none
    cases parsed : parse text with
    | error e => exact ⟨e, rfl⟩
    | ok s =>
      obtain ⟨ts, spells, written⟩ := parse_eq_ok_iff.mp parsed
      exact (none ts spells s written).elim

end Sequent

end Turnstile

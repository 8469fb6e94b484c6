import Turnstile.Proofs.Location

/-! Where reading a lone formula fails. The text has a place at which it stops being the start of a
formula: the first token with which none goes on, the first character that starts no token, or the
end. A complaint stands at this place, with one exception: the mark of an empty side is complained
about at the start of the text, whether or not blanks come before it. -/
namespace Turnstile

open Grammar

namespace Cursor

variable {c : Cursor}

/-- A cursor that goes all the way to the end passes just what it lexes. -/
theorem lex_complete_iff {ts : List Token} :
    c.lex.complete = true ∧ c.lex.plain = ts ↔ ∃ last, c.Passes ts last ∧ last.sight = .finish := by
  constructor
  · rintro ⟨complete, rfl⟩
    fun_induction lex c with
    | case1 c seen => exact ⟨c, .stay c, seen⟩
    | case2 => cases complete
    | case3 c t after seen tail ih =>
      obtain ⟨last, passes, finished⟩ := ih complete
      exact ⟨last, .token seen passes, finished⟩
  · rintro ⟨last, passes, finished⟩
    induction passes with
    | stay c => simp [lex_of_finish finished, Lexing.plain]
    | token seen _ ih =>
      obtain ⟨complete, rfl⟩ := ih finished
      simpa [lex_of_token seen, Lexing.plain] using complete

/-- What is lexed first is what the cursor sees. -/
theorem sight_of_lex {t : Token} {p : Nat} {more : List (Token × Nat)}
    (tokens : c.lex.tokens = (t, p) :: more) : ∃ next, c.sight = .token t next ∧ p = c.offset := by
  cases seen : c.sight with
  | finish => simp [lex_of_finish seen] at tokens
  | invalid => simp [lex_of_invalid seen] at tokens
  | token u next =>
    rw [lex_of_token seen] at tokens
    cases tokens
    exact ⟨next, rfl, rfl⟩

/-- Tokens, and the place where lexing stops, stand where a cursor can. -/
theorem StandsIn.exists_place {text : String} (stands : StandsIn text c) :
    (∀ t ∈ c.lex.tokens, ∃ place : Cursor, StandsIn text place ∧ t.2 = place.offset) ∧
      ∃ place : Cursor, StandsIn text place ∧ c.lex.stop = place.offset := by
  fun_induction lex c with
  | case1 c seen => exact ⟨by simp, c, stands, rfl⟩
  | case2 c seen => exact ⟨by simp, c, stands, rfl⟩
  | case3 c t after seen tail ih =>
    obtain ⟨tokens, stop⟩ := ih (stands.next seen)
    exact ⟨List.forall_mem_cons.mpr ⟨⟨c, stands, rfl⟩, tokens⟩, stop⟩

end Cursor

namespace Grammar

theorem ViableTerm.of_append {ts us : List Token} (viable : ViableTerm (ts ++ us)) :
    ViableTerm ts := by
  obtain ⟨more, a, phrase⟩ := viable
  exact ⟨us ++ more, a, by simpa using phrase⟩

theorem viableTerm_nil : ViableTerm [] :=
  ⟨[.name "A"], .var "A", .product (.factor (.name "A"))⟩

theorem not_viableTerm_empty : ¬ViableTerm [.glyph .empty] := by
  rintro ⟨more, a, phrase⟩
  obtain ⟨t, rest, next, parts, shifted⟩ := OperandStack.exists_shift_of_phrase phrase
  cases parts
  cases shifted

end Grammar

namespace Formula

/-- Where a text stops being the start of a formula. -/
inductive FaultAt (text : String) : Nat → Prop where
  | unfinished : (Cursor.ofString text).lex.complete = true →
      ViableTerm (Cursor.ofString text).lex.plain → FaultAt text text.length
  | unexpected {before after : List (Token × Nat)} {t : Token} {p : Nat} :
      (Cursor.ofString text).lex.tokens = before ++ (t, p) :: after →
        ViableTerm (before.map Prod.fst) → ¬ViableTerm (before.map Prod.fst ++ [t]) → FaultAt text p
  | invalid : (Cursor.ofString text).lex.complete = false →
      ViableTerm (Cursor.ofString text).lex.plain → FaultAt text (Cursor.ofString text).lex.stop

namespace FaultAt

variable {text : String} {p q : Nat}

theorem standsIn (fault : FaultAt text p) :
    ∃ place : Cursor, place.StandsIn text ∧ p = place.offset := by
  have stands := Cursor.standsIn_ofString text
  obtain ⟨places, stop⟩ := stands.exists_place
  cases fault with
  | unfinished complete => rwa [← stands.stop_eq_length complete]
  | @unexpected before after t p tokens => exact places (t, p) (by simp [tokens])
  | invalid => exact stop

/-- A token with which no formula goes on is not among those that one can start with. -/
theorem not_viable {before after more : List (Token × Nat)} {t : Token}
    (none : ¬ViableTerm (before.map Prod.fst ++ [t]))
    (parts : more = before ++ (t, p) :: after) : ¬ViableTerm (more.map Prod.fst) := by
  subst parts
  intro viable
  have longer : ViableTerm (before.map Prod.fst ++ [t] ++ after.map Prod.fst) := by
    simpa using viable
  exact none longer.of_append

theorem unique (first : FaultAt text p) (second : FaultAt text q) : p = q := by
  cases first with
  | unfinished complete viable =>
    cases second with
    | unfinished => rfl
    | unexpected tokens _ none => exact (not_viable none tokens viable).elim
    | invalid incomplete => cases complete.symm.trans incomplete
  | invalid incomplete viable =>
    cases second with
    | unfinished complete => cases complete.symm.trans incomplete
    | unexpected tokens _ none => exact (not_viable none tokens viable).elim
    | invalid => rfl
  | @unexpected before after t p tokens viable none =>
    cases second with
    | unfinished _ viable' => exact (not_viable none tokens viable').elim
    | invalid _ viable' => exact (not_viable none tokens viable').elim
    | @unexpected before' after' t' q tokens' viable' none' =>
      -- Neither of the two tokens can stand among those before the other.
      rcases List.append_eq_append_iff.mp (tokens.symm.trans tokens') with
        ⟨between, rfl, rest⟩ | ⟨between, rfl, rest⟩
      · cases between with
        | nil =>
          cases rest
          rfl
        | cons u between =>
          cases rest
          exact (not_viable none rfl viable').elim
      · cases between with
        | nil =>
          cases rest
          rfl
        | cons u between =>
          cases rest
          exact (not_viable none' rfl viable).elim

end FaultAt

/-- The mark of an empty side comes first, behind blanks. -/
def MarkedLate (text : String) : Prop :=
  ∃ p more, 0 < p ∧ (Cursor.ofString text).lex.tokens = (.glyph .empty, p) :: more

end Formula

namespace Cursor

open OperandStack

/-- A term with nothing behind it. -/
theorem termThen_end_iff {ts : List Token} :
    TermThen [] (· = []) ts ↔ ∃ a, Phrase .term ts a := by
  constructor
  · rintro ⟨us, vs, last, a, rfl, shifted, finished, rfl⟩
    exact ⟨a, by simpa using finish_iff_phrase.mp ⟨last, shifted, finished⟩⟩
  · rintro ⟨a, phrase⟩
    obtain ⟨last, shifted, finished⟩ := finish_iff_phrase.mpr phrase
    exact ⟨ts, [], last, a, by simp, shifted, finished, rfl⟩

end Cursor

namespace Formula

open Cursor

variable {text : String} {e : SyntaxError}

/-- Unless a text starts with the mark of an empty side, it is complained about at the earliest
place. -/
theorem parse_locates (refused : parse text = .error e)
    (unmarked : ∀ next, (ofString text).sight ≠ .token (.glyph .empty) next) :
    Locates (fun ts => ∃ a, Phrase .term ts a) (ofString text) e := by
  have same : (fun ts => ∃ a, Phrase .term ts a) = OperandStack.TermThen [] (· = []) :=
    funext fun ts => propext termThen_end_iff.symm
  have apart : ∀ (t : Token) (ts : List Token), t :: ts = [] → t.endsTerm = true := by simp
  rw [same]
  unfold parse at refused
  split at refused
  · rename_i read
    cases refused
    exact readOperands_locates apart ⟨[], rfl⟩ (OperandStack.shiftAll_nil [])
      (readOperands_of_readTerm read)
  · rename_i next read
    exact (unmarked next (readTerm_eq_none_iff.mp read)).elim
  · rename_i a after read
    split at refused
    · cases refused
    · rename_i unfinished
      cases refused
      obtain ⟨ts, passes, phrase, ending⟩ := readTerm_eq_some_iff.mp read
      refine Locates.before_term apart passes phrase ending ?_
      rcases ending with seen | ⟨t, next, seen, _⟩
      · exact (unfinished (List.isEmpty_iff.mpr (sight_eq_finish_iff.mp seen))).elim
      · exact .unexpected _ ⟨[], rfl⟩ seen (by simp)

theorem faultAt_of_locates
    (located : Locates (fun ts => ∃ a, Phrase .term ts a) (ofString text) e) :
    FaultAt text e.position := by
  rcases located.lexing with ⟨_, stopped, place, viable⟩ |
    ⟨before, t, after, tokens, viable, none⟩ | ⟨complete, place, viable, _⟩
  · exact place ▸ .invalid stopped viable
  · refine .unexpected tokens viable ?_
    rintro ⟨more, a, phrase⟩
    exact none more ⟨a, by simpa using phrase⟩
  · rw [place, (standsIn_ofString text).stop_eq_length complete]
    exact .unfinished complete viable

section Mark

variable {next : Cursor} (mark : (ofString text).sight = .token (.glyph .empty) next)

include mark

theorem parse_of_mark : parse text = .error ⟨.emptyNotExpected, 0⟩ := by
  rw [parse, readTerm_eq_none_iff.mpr mark]

theorem faultAt_of_mark : FaultAt text (ofString text).offset := by
  have tokens : (ofString text).lex.tokens =
      [] ++ (.glyph .empty, (ofString text).offset) :: next.lex.tokens := by
    rw [lex_of_token mark]
    rfl
  exact .unexpected tokens viableTerm_nil not_viableTerm_empty

theorem markedLate_iff_of_mark : MarkedLate text ↔ 0 < (ofString text).offset := by
  constructor
  · rintro ⟨p, more, late, tokens⟩
    obtain ⟨_, _, rfl⟩ := sight_of_lex tokens
    exact late
  · intro late
    exact ⟨_, next.lex.tokens, late, by rw [lex_of_token mark]⟩

end Mark

/-- A refused text has a fault, and the complaint stands there or speaks of a mark behind blanks. -/
theorem exists_fault (refused : parse text = .error e) :
    ∃ p, FaultAt text p ∧ (e.position = p ↔ ¬MarkedLate text) ∧
      (MarkedLate text → e = ⟨.emptyNotExpected, 0⟩) := by
  by_cases marked : ∃ next, (ofString text).sight = .token (.glyph .empty) next
  · obtain ⟨next, mark⟩ := marked
    cases refused.symm.trans (parse_of_mark mark)
    refine ⟨(ofString text).offset, faultAt_of_mark mark, ?_, fun _ => rfl⟩
    rw [markedLate_iff_of_mark mark]
    constructor
    · intro same late
      exact Nat.ne_of_lt late same
    · intro early
      exact (Nat.eq_zero_of_not_pos early).symm
  · have unmarked : ¬MarkedLate text := by
      rintro ⟨p, more, _, tokens⟩
      obtain ⟨next, mark, _⟩ := sight_of_lex tokens
      exact marked ⟨next, mark⟩
    have located := parse_locates refused fun next mark => marked ⟨next, mark⟩
    exact ⟨e.position, faultAt_of_locates located, iff_of_true rfl unmarked,
      fun late => (unmarked late).elim⟩

theorem parse_eq_ok_iff_lex {a : Formula} :
    parse text = .ok a ↔
      (ofString text).lex.complete = true ∧ Phrase .term (ofString text).lex.plain a := by
  simp only [parse_eq_ok_iff, spells_iff_passes, ← lex_complete_iff]
  constructor
  · rintro ⟨ts, ⟨complete, rfl⟩, phrase⟩
    exact ⟨complete, phrase⟩
  · rintro ⟨complete, phrase⟩
    exact ⟨_, ⟨complete, rfl⟩, phrase⟩

/-- A text is read as a formula exactly if all of it is lexed to tokens that mean the formula, and
is refused otherwise. A refused text has exactly one place at which it stops being the start of a
formula, and that is no blank. The complaint stands there, unless the mark of an empty side comes
first with blanks before it: of such a mark the reader complains at the very start of the text. -/
theorem parse_located (text : String) :
    (∀ a, parse text = .ok a ↔
      (ofString text).lex.complete = true ∧ Phrase .term (ofString text).lex.plain a) ∧
    ((∃ e, parse text = .error e) ↔
      ¬∃ a, (ofString text).lex.complete = true ∧ Phrase .term (ofString text).lex.plain a) ∧
    ∀ e, parse text = .error e →
      ∃ p, (∀ q, FaultAt text q ↔ q = p) ∧ p ≤ text.length ∧
        (∀ x, text.toList[p]? = some x → Token.isBlank x = false) ∧
        (e.position = p ↔ ¬MarkedLate text) ∧
        (MarkedLate text → e = ⟨.emptyNotExpected, 0⟩) := by
  refine ⟨fun a => parse_eq_ok_iff_lex, ?_, ?_⟩
  · simp only [← parse_eq_ok_iff_lex]
    cases parse text with
    | error e => simp
    | ok a => simp
  · intro e refused
    obtain ⟨p, fault, position, late⟩ := exists_fault refused
    obtain ⟨place, stands, same⟩ := fault.standsIn
    refine ⟨p, fun q => ⟨fun other => other.unique fault, fun equal => equal ▸ fault⟩, ?_, ?_,
      position, late⟩
    · exact same ▸ stands.offset_le
    · intro x char
      rw [same, stands.getElem?_offset] at char
      exact stands.visible x char

/-- A conjunction that lacks its second operand. No token of it is at fault, so the fault is at the
end, and so is the complaint. -/
theorem parse_located_open_conjunction :
    ∃ e : SyntaxError, parse " A ∧ " = .error e ∧ e.position = 5 ∧
      ∀ q, FaultAt " A ∧ " q ↔ q = e.position := by
  have refused : parse " A ∧ " = .error ⟨.expectedMore, 5⟩ := by decide +kernel
  have first : (ofString " A ∧ ").lex.tokens = [(.name "A", 1), (.glyph .conj, 3)] := by
    decide +kernel
  have early : ¬MarkedLate " A ∧ " := by
    rintro ⟨p, more, _, tokens⟩
    cases first.symm.trans tokens
  obtain ⟨p, faults, _, _, position, _⟩ := (parse_located " A ∧ ").2.2 _ refused
  obtain rfl := position.mpr early
  exact ⟨_, refused, rfl, faults⟩

/-- A mark of an empty side behind one blank. No formula starts with it, so the fault is at the
mark; the complaint stands at the blank. -/
theorem parse_complains_at_blank :
    parse " ∅" = .error ⟨.emptyNotExpected, 0⟩ ∧ " ∅".toList[0]? = some ' ' ∧
      FaultAt " ∅" 1 ∧ ¬FaultAt " ∅" 0 := by
  have refused : parse " ∅" = .error ⟨.emptyNotExpected, 0⟩ := by decide +kernel
  have fault : FaultAt " ∅" 1 := by
    have tokens : (ofString " ∅").lex.tokens = [] ++ [(.glyph .empty, 1)] := by decide +kernel
    exact .unexpected tokens viableTerm_nil not_viableTerm_empty
  refine ⟨refused, by decide, fault, ?_⟩
  intro other
  cases other.unique fault

end Formula

end Turnstile

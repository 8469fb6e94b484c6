import Turnstile.Proofs.Viability

/-! Where reading fails. A language of token lists says what may still come, and with every token
that the cursor passes it shrinks to what may come behind that token. A complaint is located
exactly if it stands at the first token that leaves nothing possible, at the end of tokens that
may go on but not end there, or at the first character that starts no token. Every reader
locates its complaints exactly in the language of what it reads. -/
namespace Turnstile

open Grammar

theorem Token.eq_of_endsTerm {t : Token} (ends : t.endsTerm = true) :
    t = .comma ∨ t = .glyph .turnstile := by
  unfold Token.endsTerm at ends
  split at ends
  · exact .inr rfl
  · exact .inl rfl
  · cases ends

namespace Cursor

open OperandStack

/-- A complaint at the earliest place, for a reader whose tokens should be in a language. -/
inductive Locates : (List Token → Prop) → Cursor → SyntaxError → Prop where
  | invalid {L : List Token → Prop} {c : Cursor} :
      (∃ ts, L ts) → c.sight = .invalid → Locates L c (c.complain .invalidSymbol)
  | unexpected {L : List Token → Prop} {c next : Cursor} {t : Token} (complaint : Complaint) :
      (∃ ts, L ts) → c.sight = .token t next → (∀ ts, ¬L (t :: ts)) →
        Locates L c (c.complain complaint)
  | unfinished {L : List Token → Prop} {c : Cursor} (complaint : Complaint) :
      (∃ ts, L ts) → c.sight = .finish → ¬L [] → Locates L c (c.complain complaint)
  | later {L : List Token → Prop} {c next : Cursor} {t : Token} {e : SyntaxError} :
      c.sight = .token t next → Locates (fun ts => L (t :: ts)) next e → Locates L c e

namespace Locates

variable {L M : List Token → Prop} {c : Cursor} {e : SyntaxError}

theorem possible (located : Locates L c e) : ∃ ts, L ts := by
  induction located with
  | invalid possible _ | unexpected _ possible _ _ | unfinished _ possible _ _ => exact possible
  | later _ _ ih =>
    obtain ⟨ts, member⟩ := ih
    exact ⟨_ :: ts, member⟩

/-- Only the lists that start with the next token matter. -/
theorem of_same_head {t : Token} {next : Cursor} (seen : c.sight = .token t next)
    (same : ∀ ts, L (t :: ts) ↔ M (t :: ts)) (possible : ∃ ts, M ts) (located : Locates L c e) :
    Locates M c e := by
  cases located with
  | invalid _ other => cases seen.symm.trans other
  | unexpected complaint _ other none =>
    cases seen.symm.trans other
    exact .unexpected complaint possible seen fun ts member => none ts ((same ts).mpr member)
  | unfinished _ _ other _ => cases seen.symm.trans other
  | later other located =>
    cases seen.symm.trans other
    exact .later seen (funext (fun ts => propext (same ts)) ▸ located)

/-- At the end only the empty list matters. -/
theorem of_same_end (seen : c.sight = .finish) (same : L [] ↔ M []) (possible : ∃ ts, M ts)
    (located : Locates L c e) : Locates M c e := by
  cases located with
  | invalid _ other => cases seen.symm.trans other
  | unexpected _ _ other _ => cases seen.symm.trans other
  | unfinished complaint _ _ missing =>
    exact .unfinished complaint possible seen fun member => missing (same.mpr member)
  | later other _ => cases seen.symm.trans other

theorem of_passes {ts : List Token} {last : Cursor} (passes : c.Passes ts last)
    (rest : ∀ us, L (ts ++ us) ↔ M us) (located : Locates M last e) : Locates L c e := by
  induction passes generalizing L with
  | stay c =>
    obtain rfl : L = M := funext fun us => propext (rest us)
    exact located
  | token seen _ ih => exact .later seen (ih rest located)

end Locates

theorem finish_mapError_eq_error {stack : OperandStack} {c after : Cursor} {e : SyntaxError}
    (read : ((stack.finish.mapError c.complain, c) : Reading Formula) = (.error e, after)) :
    ∃ complaint, stack.finish = .error complaint ∧ e = c.complain complaint := by
  cases finished : stack.finish with
  | error complaint =>
    rw [finished] at read
    cases read
    exact ⟨complaint, rfl, rfl⟩
  | ok a =>
    rw [finished] at read
    cases read

section Follow

variable {follow : List Token → Prop} (apart : ∀ t ts, follow (t :: ts) → t.endsTerm = true)

include apart

theorem readOperands_locates {stack : OperandStack} {us : List Token} {c after : Cursor}
    {e : SyntaxError} (possible : ∃ ts, follow ts) (reached : shiftAll [] us = .ok stack)
    (read : c.readOperands stack = (.error e, after)) : Locates (TermThen stack follow) c e := by
  fun_induction readOperands stack c generalizing us with
  | case1 stack c seen =>
    cases read
    exact .invalid (exists_termThen reached possible) seen
  | case2 stack c seen =>
    obtain ⟨complaint, failed, rfl⟩ := finish_mapError_eq_error read
    refine .unfinished complaint (exists_termThen reached possible) seen fun member => ?_
    obtain ⟨⟨a, finished⟩, _⟩ := termThen_nil_iff.mp member
    cases failed.symm.trans finished
  | case3 stack c t next seen ends =>
    obtain ⟨complaint, failed, rfl⟩ := finish_mapError_eq_error read
    refine .unexpected complaint (exists_termThen reached possible) seen fun ts member => ?_
    obtain ⟨⟨a, finished⟩, _⟩ := (termThen_cons_of_endsTerm ends).mp member
    cases failed.symm.trans finished
  | case4 stack c t next seen inside complaint failed =>
    cases read
    refine .unexpected complaint (exists_termThen reached possible) seen fun ts member => ?_
    rcases termThen_cons_iff.mp member with ⟨_, shifted, _⟩ | ⟨_, follows⟩
    · cases failed.symm.trans shifted
    · exact inside (apart t ts follows)
  | case5 stack c t after' seen inside next shifted ih =>
    have further : shiftAll [] (us ++ [t]) = .ok next := by
      rw [shiftAll_append [t] reached, shiftAll_cons [] shifted, shiftAll_nil]
    refine Locates.of_passes (.token seen (.stay _)) ?_ (ih further read)
    exact fun ts => termThen_cons_of_shift apart shifted

/-- What is located behind a whole term is located from its start. -/
theorem Locates.before_term {ts : List Token} {a : Formula} {c after : Cursor} {e : SyntaxError}
    (passes : c.Passes ts after) (phrase : Phrase .term ts a) (ending : after.EndsTerm)
    (located : Locates follow after e) : Locates (TermThen [] follow) c e := by
  obtain ⟨last, shifted, finished⟩ := finish_iff_phrase.mpr phrase
  refine .of_passes passes (fun us => termThen_append_of_shiftAll apart shifted) ?_
  have possible := exists_termThen shifted located.possible
  rcases ending with seen | ⟨t, next, seen, ends⟩
  · refine located.of_same_end seen ?_ possible
    rw [termThen_nil_iff]
    exact ⟨fun member => ⟨⟨a, finished⟩, member⟩, fun member => member.2⟩
  · refine located.of_same_head seen (fun us => ?_) possible
    rw [termThen_cons_of_endsTerm ends]
    exact ⟨fun member => ⟨⟨a, finished⟩, member⟩, fun member => member.2⟩

end Follow

variable {side : Side}

/-- Behind a comma another term must start. -/
theorem sideMove_comma_locates {last : Formula} {before : List Formula} {c next after : Cursor}
    {e : SyntaxError} (comma : c.sight = .token .comma next)
    (move : c.sideMove side (.terms last before) = .complain e after) :
    Locates (Remains side (.terms last before)) c e := by
  refine .of_passes (.token comma (.stay _)) (fun ts => remains_comma_iff) ?_
  cases ahead : next.sight with
  | invalid =>
    simp only [sideMove, comma, ahead] at move
    cases move
    exact .invalid (exists_moreTerms side) ahead
  | finish =>
    simp only [sideMove, comma, ahead] at move
    cases move
    refine .unfinished _ (exists_moreTerms side) ahead fun more => ?_
    obtain ⟨_, _, _, parts, _⟩ := more.exists_shift
    cases parts
  | token t following =>
    rw [sideMove_terms comma ahead] at move
    cases move

/-- A side that is not read on is refused at the earliest place. Behind a term the cursor must
stand where the reader of terms has stopped, because the term could go on elsewhere. -/
theorem sideMove_locates {state : SideState} {c last : Cursor} {e : SyntaxError}
    (stopped : ∀ a before, state = .terms a before → c.EndsTerm)
    (move : c.sideMove side state = .complain e last) : Locates (Remains side state) c e := by
  have refused := move
  unfold sideMove at refused
  split at refused
  · rename_i seen
    cases refused
    exact .invalid (exists_remains _ state) seen
  · rename_i seen
    cases refused
    exact .unfinished _ (exists_remains _ state) seen (not_remains_nil state)
  · cases refused
  · cases refused
  · rename_i seen
    cases refused
    exact .unexpected _ (exists_remains _ state) seen (not_remains_turnstile state)
  · rename_i side _ _ t next notLeft notRight seen
    have inside : t ≠ .glyph .turnstile := by
      rintro rfl
      cases side with
      | left => exact notLeft rfl rfl
      | right => exact notRight rfl rfl
    cases state with
    | empty =>
      cases refused
      exact .unexpected _ (exists_remains _ _) seen fun ts => not_remains_empty inside
    | terms a before =>
      rcases stopped a before rfl with ended | ⟨u, after, other, ends⟩
      · cases seen.symm.trans ended
      · cases seen.symm.trans other
        rcases Token.eq_of_endsTerm ends with rfl | rfl
        · exact sideMove_comma_locates seen move
        · exact (inside rfl).elim
    | start =>
      change (if t = .comma then _ else _) = _ at refused
      split at refused
      · rename_i comma
        subst comma
        cases refused
        refine .unexpected _ (exists_remains _ _) seen fun ts remains => ?_
        exact not_moreTerms_of_shift rfl ((remains_start_cons_iff inside nofun).mp remains)
      · cases refused

theorem sideMove_start_eq_term {c start : Cursor} (move : c.sideMove side .start = .term start) :
    ∃ t next, c.sight = .token t next ∧ t ≠ .glyph .turnstile := by
  cases seen : c.sight with
  | invalid => simp [sideMove, seen] at move
  | finish => cases side <;> simp [sideMove, seen] at move
  | token t next =>
    refine ⟨t, next, rfl, ?_⟩
    rintro rfl
    cases side <;> simp [sideMove, seen] at move

/-- What is located from where a term starts is located from where the side goes on. -/
theorem Locates.before_move {state : SideState} {c start : Cursor} {e : SyntaxError}
    (move : c.sideMove side state = .term start)
    (unmarked : ∀ next, start.sight ≠ .token (.glyph .empty) next)
    (located : Locates (MoreTerms side) start e) : Locates (Remains side state) c e := by
  rcases sideMove_eq_term move with ⟨rfl, rfl⟩ | ⟨last, before, rfl, comma⟩
  · obtain ⟨t, next, seen, inside⟩ := sideMove_start_eq_term move
    have other : t ≠ .glyph .empty := by
      rintro rfl
      exact unmarked next seen
    exact located.of_same_head seen (fun ts => (remains_start_cons_iff inside other).symm)
      (exists_remains _ _)
  · exact .of_passes (.token comma (.stay _)) (fun ts => remains_comma_iff) located

theorem readOperands_of_readTerm {c after : Cursor} {e : SyntaxError}
    (read : c.readTerm = (.error e, after)) : c.readOperands [] = (.error e, after) := by
  unfold readTerm at read
  split at read
  · cases read
  · split at read
    · cases read
    · rename_i operands
      cases read
      exact operands

theorem readTerm_locates {c after : Cursor} {e : SyntaxError}
    (read : c.readTerm = (.error e, after)) : Locates (MoreTerms side) c e := by
  have same : MoreTerms side = TermThen [] (Remains side (.terms (.var "A") [])) :=
    funext fun ts => propext (moreTerms_iff_termThen _ _)
  rw [same]
  exact readOperands_locates (fun t ts => Remains.endsTerm) (exists_remains _ _) (shiftAll_nil [])
    (readOperands_of_readTerm read)

theorem Locates.before_terms {last : Formula} {before : List Formula} {a : Formula}
    {c after : Cursor} {e : SyntaxError} (read : c.readTerm = (.ok (some a), after))
    (located : Locates (Remains side (.terms last before)) after e) :
    Locates (MoreTerms side) c e := by
  have same : MoreTerms side = TermThen [] (Remains side (.terms last before)) :=
    funext fun ts => propext (moreTerms_iff_termThen _ _)
  obtain ⟨ts, passes, phrase, ending⟩ := readTerm_eq_some_iff.mp read
  rw [same]
  exact located.before_term (fun t ts => Remains.endsTerm) passes phrase ending

theorem unmarked_of_readTerm {c after : Cursor} {outcome : Except SyntaxError (Option Formula)}
    (read : c.readTerm = (outcome, after)) (other : outcome ≠ .ok none) (next : Cursor) :
    c.sight ≠ .token (.glyph .empty) next := by
  intro seen
  rw [readTerm_eq_none_iff.mpr seen] at read
  exact other (Prod.mk.inj read).1.symm

theorem readSide_locates {state : SideState} {c after : Cursor} {e : SyntaxError}
    (read : c.readSide side state = (.error e, after))
    (stopped : ∀ a before, state = .terms a before → c.EndsTerm) :
    Locates (Remains side state) c e := by
  fun_induction readSide side state c with
  | case1 => cases read
  | case2 state c e' last move =>
    cases read
    exact sideMove_locates stopped move
  | case3 state c start move e' last failed =>
    cases read
    exact (readTerm_locates failed).before_move move (unmarked_of_readTerm failed (by simp))
  | case4 state c start move term middle read' refused =>
    cases read
    -- Only the mark of an empty side is refused here, and only behind a comma.
    cases term with
    | some a => cases state <;> cases refused
    | none =>
      rcases sideMove_eq_term move with ⟨rfl, _⟩ | ⟨last, before, rfl, comma⟩
      · cases refused
      · refine .of_passes (.token comma (.stay _)) (fun ts => remains_comma_iff) ?_
        have seen := readTerm_eq_none_iff.mp read'
        exact .unexpected _ (exists_moreTerms side) seen fun ts => not_moreTerms_of_shift rfl
  | case5 state c start move term middle read' next added ih =>
    cases term with
    | none =>
      rcases sideMove_eq_term move with ⟨rfl, rfl⟩ | ⟨last, before, rfl, _⟩
      · cases added
        have seen := readTerm_eq_none_iff.mp read'
        have located := ih read (by simp)
        exact .of_passes (.token seen (.stay _)) (fun ts => remains_empty_mark_iff) located
      · cases added
    | some a =>
      obtain ⟨before, rfl⟩ : ∃ before, next = .terms a before := by
        cases state <;> cases added <;> exact ⟨_, rfl⟩
      obtain ⟨_, _, _, ending⟩ := readTerm_eq_some_iff.mp read'
      have located := ih read fun _ _ _ => ending
      exact (located.before_terms read').before_move move (unmarked_of_readTerm read' (by simp))

theorem readSequent_locates {c after : Cursor} {e : SyntaxError}
    (read : c.readSequent = (.error e, after)) :
    Locates (fun ts => ∃ s, WrittenSequent ts s) c e := by
  unfold readSequent at read
  split at read
  · rename_i failed
    cases read
    have located := readSide_locates failed nofun
    exact .of_passes (.stay c) (fun ts => remains_left_iff.symm) located
  · rename_i left middle readLeft
    split at read
    · rename_i failed
      cases read
      obtain ⟨ts, ⟨passes, _⟩, ⟨written⟩⟩ := readSide_eq_ok readLeft
      have located := readSide_locates failed nofun
      refine .of_passes passes (fun us => ?_) located
      rw [remains_right_iff, ← writtenSequent_append_iff written]
      simp [closingTokens]
    · cases read

/-- What it means for the lexing that a complaint is located: it stands at the character where
the lexing stops, at one of its tokens, or at its end. -/
theorem Locates.lexing {L : List Token → Prop} {c : Cursor} {e : SyntaxError}
    (located : Locates L c e) :
    (e.complaint = .invalidSymbol ∧ c.lex.complete = false ∧ e.position = c.lex.stop ∧
      ∃ more, L (c.lex.plain ++ more)) ∨
    (∃ before t after, c.lex.tokens = before ++ (t, e.position) :: after ∧
      (∃ more, L (before.map Prod.fst ++ more)) ∧ ∀ more, ¬L (before.map Prod.fst ++ t :: more)) ∨
    (c.lex.complete = true ∧ e.position = c.lex.stop ∧ (∃ more, L (c.lex.plain ++ more)) ∧
      ¬L c.lex.plain) := by
  induction located with
  | invalid possible seen => exact .inl (by simpa [lex_of_invalid seen, complain, Lexing.plain])
  | @unexpected L c next t complaint possible seen none =>
    refine .inr (.inl ⟨[], t, next.lex.tokens, ?_, possible, none⟩)
    rw [lex_of_token seen]
    rfl
  | unfinished complaint possible seen missing =>
    refine .inr (.inr ?_)
    simpa [lex_of_finish seen, complain, Lexing.plain] using ⟨possible, missing⟩
  | @later L c next t e seen _ ih =>
    rw [lex_of_token seen]
    rcases ih with ⟨invalid, stopped, place, viable⟩ | ⟨before, u, after, tokens, viable, none⟩ |
      ⟨complete, place, viable, missing⟩
    · exact .inl ⟨invalid, stopped, place, viable⟩
    · exact .inr (.inl ⟨(t, c.offset) :: before, u, after, by simp [tokens], viable, none⟩)
    · exact .inr (.inr ⟨complete, place, viable, missing⟩)

theorem Locates.standsIn {L : List Token → Prop} {text : String} {c : Cursor} {e : SyntaxError}
    (located : Locates L c e) (stands : StandsIn text c) :
    ∃ place : Cursor, StandsIn text place ∧ e.position = place.offset := by
  induction located with
  | @invalid L c _ _ | @unexpected L c _ _ _ _ _ _ | @unfinished L c _ _ _ _ =>
    exact ⟨c, stands, rfl⟩
  | later seen _ ih => exact ih (stands.next seen)

end Cursor

namespace Sequent

/-- A text is refused at the earliest place: at the first character that starts no token, behind
tokens that a sequent may start with; at the first token with which no sequent goes on; or at
the end of tokens that a sequent may start with and that are none. The place is never a blank. -/
theorem parse_error_located {text : String} {e : SyntaxError} (refused : parse text = .error e) :
    ((e.complaint.message = "Invalid symbol" ∧ (Cursor.ofString text).lex.complete = false ∧
        e.position = (Cursor.ofString text).lex.stop ∧ Viable (Cursor.ofString text).lex.plain) ∨
      (∃ before t after,
        (Cursor.ofString text).lex.tokens = before ++ (t, e.position) :: after ∧
          Viable (before.map Prod.fst) ∧ ¬Viable (before.map Prod.fst ++ [t])) ∨
      (e.position = text.length ∧ (Cursor.ofString text).lex.complete = true ∧
        Viable (Cursor.ofString text).lex.plain ∧
          ∀ s, ¬WrittenSequent (Cursor.ofString text).lex.plain s)) ∧
      e.position ≤ text.length ∧
        ∀ x, text.toList[e.position]? = some x → Token.isBlank x = false := by
  have stands := Cursor.standsIn_ofString text
  have located := Cursor.readSequent_locates (Prod.ext refused rfl)
  constructor
  · rcases located.lexing with ⟨invalid, stopped, place, viable⟩ |
      ⟨before, t, after, tokens, viable, none⟩ | ⟨complete, place, viable, missing⟩
    · exact .inl ⟨by rw [invalid]; rfl, stopped, place, viable⟩
    · refine .inr (.inl ⟨before, t, after, tokens, viable, ?_⟩)
      rintro ⟨more, written⟩
      exact none more (by simpa using written)
    · refine .inr (.inr ⟨?_, complete, viable, fun s written => missing ⟨s, written⟩⟩)
      rw [place, stands.stop_eq_length complete]
  · obtain ⟨place, standsThere, same⟩ := located.standsIn stands
    rw [same]
    refine ⟨standsThere.offset_le, fun x char => ?_⟩
    exact standsThere.visible x (standsThere.getElem?_offset ▸ char)

/-- A parenthesis that closes behind a disjunction without its second operand. -/
theorem parse_error_stray_parenthesis :
    parse "A, (B | ) > C" = .error ⟨.missingOperand, 8⟩ ∧
    ∃ before t after, (Cursor.ofString "A, (B | ) > C").lex.tokens = before ++ (t, 8) :: after ∧
      Viable (before.map Prod.fst) ∧ ¬Viable (before.map Prod.fst ++ [t]) := by
  have refused : parse "A, (B | ) > C" = .error ⟨.missingOperand, 8⟩ := by decide +kernel
  refine ⟨refused, ?_⟩
  rcases (parse_error_located refused).1 with ⟨message, _⟩ | unexpected | ⟨place, _⟩
  · exact absurd message (by decide)
  · exact unexpected
  · exact absurd place (by decide)

end Sequent

end Turnstile

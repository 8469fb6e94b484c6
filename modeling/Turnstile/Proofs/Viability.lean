import Mathlib.Data.List.Basic
import Turnstile.Proofs.Reading

/-! What may still come. A stack, or a side that has been read to some state, leaves a language of
token lists with which the reading goes on; the language is never empty, and what a token leaves
of it is again the language of a stack or a side. -/
namespace Turnstile

open Grammar

namespace OperandStack

/-- What may come where the first tokens of a term are on the stack and some tokens may follow
the term. -/
def TermThen (stack : OperandStack) (follow : List Token → Prop) (ts : List Token) : Prop :=
  ∃ us vs last a, ts = us ++ vs ∧ stack.shiftAll us = .ok last ∧ last.finish = .ok a ∧ follow vs

variable {stack next last : OperandStack} {follow : List Token → Prop} {t : Token}
  {ts us : List Token}

theorem termThen_nil_iff :
    TermThen stack follow [] ↔ (∃ a, stack.finish = .ok a) ∧ follow [] := by
  constructor
  · rintro ⟨us, vs, last, a, parts, shifted, finished, member⟩
    obtain ⟨rfl, rfl⟩ := List.append_eq_nil_iff.mp parts.symm
    cases shifted
    exact ⟨⟨a, finished⟩, member⟩
  · rintro ⟨⟨a, finished⟩, member⟩
    exact ⟨[], [], stack, a, rfl, rfl, finished, member⟩

/-- The next token either goes onto the stack or follows a term that is finished. -/
theorem termThen_cons_iff :
    TermThen stack follow (t :: ts) ↔
      (∃ next, stack.shift t = .ok next ∧ TermThen next follow ts) ∨
        (∃ a, stack.finish = .ok a) ∧ follow (t :: ts) := by
  constructor
  · rintro ⟨us, vs, last, a, parts, shifted, finished, member⟩
    cases us with
    | nil =>
      cases shifted
      exact .inr ⟨⟨a, finished⟩, by simpa [parts] using member⟩
    | cons u us =>
      obtain ⟨rfl, rfl⟩ := List.cons.inj parts
      obtain ⟨next, first, rest⟩ := shiftAll_cons_eq_ok_iff.mp shifted
      exact .inl ⟨next, first, us, vs, last, a, rfl, rest, finished, member⟩
  · rintro (⟨next, first, us, vs, last, a, rfl, rest, finished, member⟩ | ⟨⟨a, finished⟩, member⟩)
    · exact ⟨t :: us, vs, last, a, rfl, by rw [shiftAll_cons us first, rest], finished, member⟩
    · exact ⟨[], t :: ts, stack, a, rfl, rfl, finished, member⟩

section Follow

variable (apart : ∀ t ts, follow (t :: ts) → t.endsTerm = true)

include apart

theorem termThen_cons_of_shift (shifted : stack.shift t = .ok next) :
    TermThen stack follow (t :: ts) ↔ TermThen next follow ts := by
  rw [termThen_cons_iff]
  constructor
  · rintro (⟨other, same, rest⟩ | ⟨_, member⟩)
    · cases shifted.symm.trans same
      exact rest
    · have ends := apart t ts member
      rw [endsTerm_of_shift shifted] at ends
      cases ends
  · exact fun rest => .inl ⟨next, shifted, rest⟩

theorem termThen_append_of_shiftAll (shifted : stack.shiftAll ts = .ok last) :
    TermThen stack follow (ts ++ us) ↔ TermThen last follow us := by
  induction ts generalizing stack with
  | nil =>
    cases shifted
    rfl
  | cons t ts ih =>
    obtain ⟨next, first, rest⟩ := shiftAll_cons_eq_ok_iff.mp shifted
    rw [List.cons_append, termThen_cons_of_shift apart first, ih rest]

end Follow

theorem termThen_cons_of_endsTerm (ends : t.endsTerm = true) :
    TermThen stack follow (t :: ts) ↔ (∃ a, stack.finish = .ok a) ∧ follow (t :: ts) := by
  rw [termThen_cons_iff, stack.shift_of_endsTerm ends]
  simp

/-- What an awaiting stack stands for goes on to a term with any phrase that it awaits. -/
theorem Awaits.exists_phrase {level : Level} {ts us : List Token} {stack : OperandStack}
    {a : Formula} (awaits : Awaits level ts stack) (phrase : Phrase level us a) :
    ∃ more b, Phrase .term (ts ++ us ++ more) b := by
  induction awaits generalizing us a with
  | start => exact ⟨[], a, by simpa using phrase⟩
  | opening _ ih =>
    obtain ⟨more, b, term⟩ := ih (.group phrase)
    exact ⟨.closing :: more, b, by simpa using term⟩
  | term _ ih => exact ih (.product phrase)
  | disj _ left ih =>
    obtain ⟨more, b, term⟩ := ih (.disj left phrase)
    exact ⟨more, b, by simpa using term⟩
  | product _ ih => exact ih (.factor phrase)
  | conj _ left ih =>
    obtain ⟨more, b, term⟩ := ih (.conj left phrase)
    exact ⟨more, b, by simpa using term⟩
  | neg _ ih =>
    obtain ⟨more, b, term⟩ := ih (.neg phrase)
    exact ⟨more, b, by simpa using term⟩

theorem Represents.exists_phrase (represents : Represents ts stack) :
    ∃ more a, Phrase .term (ts ++ more) a := by
  cases represents with
  | awaiting awaits =>
    obtain ⟨more, a, term⟩ := awaits.exists_phrase (.name "A")
    exact ⟨.name "A" :: more, a, by simpa using term⟩
  | complete awaits phrase => exact awaits.exists_phrase phrase

/-- Every stack that tokens lead to can still be finished. -/
theorem exists_termThen (reached : shiftAll [] us = .ok stack) (possible : ∃ ts, follow ts) :
    ∃ ts, TermThen stack follow ts := by
  obtain ⟨more, a, term⟩ := (represents_of_shiftAll reached).exists_phrase
  obtain ⟨last, shifted, finished⟩ := finish_iff_phrase.mpr term
  obtain ⟨vs, member⟩ := possible
  rw [shiftAll_append more reached] at shifted
  exact ⟨more ++ vs, more, vs, last, a, rfl, shifted, finished, member⟩

end OperandStack

namespace Cursor

open OperandStack

/-- What may stand behind the formulas of a side. -/
def Beyond : Side → List Token → Prop
  | .left, ts => ∃ us formulas, ts = .glyph .turnstile :: us ∧ WrittenSide us formulas
  | .right, ts => ts = []

/-- What may come where a side has been read to some state. -/
def Remains (side : Side) (state : SideState) (ts : List Token) : Prop :=
  ∃ us vs formulas, ts = us ++ vs ∧ SideRest state us formulas ∧ Beyond side vs

/-- What may come where a term must start. -/
def MoreTerms (side : Side) (ts : List Token) : Prop :=
  ∃ us vs formulas, ts = us ++ vs ∧ Terms us formulas ∧ Beyond side vs

variable {side : Side}

theorem exists_beyond (side : Side) : ∃ ts, Beyond side ts := by
  cases side with
  | left => exact ⟨_, _, _, rfl, .nothing⟩
  | right => exact ⟨[], rfl⟩

theorem Beyond.head {t : Token} {ts : List Token} (beyond : Beyond side (t :: ts)) :
    side = .left ∧ t = .glyph .turnstile := by
  cases side with
  | left =>
    obtain ⟨us, formulas, parts, _⟩ := beyond
    exact ⟨rfl, (List.cons.inj parts).1⟩
  | right => cases beyond

theorem remains_of_beyond (state : SideState) {ts : List Token} (beyond : Beyond side ts) :
    Remains side state ts :=
  ⟨[], ts, state.formulas, rfl, sideRest_nil state, beyond⟩

theorem exists_remains (side : Side) (state : SideState) : ∃ ts, Remains side state ts := by
  obtain ⟨ts, beyond⟩ := exists_beyond side
  exact ⟨ts, remains_of_beyond state beyond⟩

theorem remains_empty_iff {ts : List Token} : Remains side .empty ts ↔ Beyond side ts := by
  refine ⟨?_, remains_of_beyond .empty⟩
  rintro ⟨us, vs, formulas, rfl, ⟨⟩, beyond⟩
  exact beyond

/-- Behind a term the side ends, or a comma and further terms come. -/
theorem remains_terms_iff {last : Formula} {before : List Formula} {ts : List Token} :
    Remains side (.terms last before) ts ↔
      Beyond side ts ∨ ∃ us, ts = .comma :: us ∧ MoreTerms side us := by
  constructor
  · rintro ⟨us, vs, formulas, rfl, rest, beyond⟩
    cases rest with
    | stop => exact .inl beyond
    | more _ _ terms => exact .inr ⟨_, rfl, _, vs, _, rfl, terms, beyond⟩
  · rintro (beyond | ⟨_, rfl, us, vs, formulas, rfl, terms, beyond⟩)
    · exact remains_of_beyond _ beyond
    · exact ⟨.comma :: us, vs, _, rfl, .more last before terms, beyond⟩

theorem remains_start_iff {ts : List Token} :
    Remains side .start ts ↔
      Beyond side ts ∨ (∃ us, ts = .glyph .empty :: us ∧ Beyond side us) ∨ MoreTerms side ts := by
  constructor
  · rintro ⟨us, vs, formulas, rfl, ⟨written⟩, beyond⟩
    cases written with
    | nothing => exact .inl beyond
    | empty => exact .inr (.inl ⟨vs, rfl, beyond⟩)
    | terms terms => exact .inr (.inr ⟨us, vs, formulas, rfl, terms, beyond⟩)
  · rintro (beyond | ⟨us, rfl, beyond⟩ | ⟨us, vs, formulas, rfl, terms, beyond⟩)
    · exact remains_of_beyond _ beyond
    · exact ⟨[.glyph .empty], us, [], rfl, .start .empty, beyond⟩
    · exact ⟨us, vs, formulas, rfl, .start (.terms terms), beyond⟩

theorem Remains.endsTerm {last : Formula} {before : List Formula} {t : Token} {ts : List Token}
    (remains : Remains side (.terms last before) (t :: ts)) : t.endsTerm = true := by
  rcases remains_terms_iff.mp remains with beyond | ⟨us, parts, _⟩
  · rw [beyond.head.2]
    rfl
  · rw [(List.cons.inj parts).1]
    rfl

/-- Terms are a term with whatever may follow it. -/
theorem moreTerms_iff_termThen (last : Formula) (before : List Formula) {ts : List Token} :
    MoreTerms side ts ↔ TermThen [] (Remains side (.terms last before)) ts := by
  constructor
  · rintro ⟨us, vs, formulas, rfl, terms, beyond⟩
    cases terms with
    | one phrase =>
      obtain ⟨stack, shifted, finished⟩ := finish_iff_phrase.mpr phrase
      exact ⟨us, vs, stack, _, rfl, shifted, finished, remains_of_beyond _ beyond⟩
    | @cons us ws a others phrase terms =>
      obtain ⟨stack, shifted, finished⟩ := finish_iff_phrase.mpr phrase
      refine ⟨us, .comma :: (ws ++ vs), stack, a, by simp, shifted, finished, ?_⟩
      exact remains_terms_iff.mpr (.inr ⟨_, rfl, ws, vs, others, rfl, terms, beyond⟩)
  · rintro ⟨us, vs, stack, a, rfl, shifted, finished, remains⟩
    have phrase := finish_iff_phrase.mp ⟨stack, shifted, finished⟩
    rcases remains_terms_iff.mp remains with beyond | ⟨_, rfl, ws, vs, others, rfl, terms, beyond⟩
    · exact ⟨us, vs, [a], rfl, .one phrase, beyond⟩
    · exact ⟨us ++ .comma :: ws, vs, a :: others, by simp, .cons phrase terms, beyond⟩

theorem exists_moreTerms (side : Side) : ∃ ts, MoreTerms side ts := by
  obtain ⟨vs, beyond⟩ := exists_beyond side
  exact ⟨[.name "A"] ++ vs, _, vs, _, rfl, .one (.product (.factor (.name "A"))), beyond⟩

/-- Terms start with a token that goes onto an empty stack. -/
theorem MoreTerms.exists_shift {ts : List Token} (more : MoreTerms side ts) :
    ∃ t rest next, ts = t :: rest ∧ shift [] t = .ok next := by
  obtain ⟨us, vs, formulas, rfl, terms, _⟩ := more
  obtain ⟨t, rest, next, rfl, shifted⟩ := exists_shift_of_terms terms
  exact ⟨t, rest ++ vs, next, rfl, shifted⟩

theorem not_moreTerms_of_shift {t : Token} {ts : List Token} {complaint : Complaint}
    (refused : shift [] t = .error complaint) : ¬MoreTerms side (t :: ts) := by
  intro more
  obtain ⟨u, rest, next, parts, shifted⟩ := more.exists_shift
  obtain ⟨rfl, rfl⟩ := List.cons.inj parts
  cases refused.symm.trans shifted

theorem not_remains_nil (state : SideState) : ¬Remains .left state [] := by
  rintro ⟨us, vs, formulas, parts, _, _, _, rfl, _⟩
  simp at parts

theorem not_remains_turnstile (state : SideState) (ts : List Token) :
    ¬Remains .right state (.glyph .turnstile :: ts) := by
  intro remains
  cases state with
  | start =>
    rcases remains_start_iff.mp remains with beyond | ⟨us, parts, _⟩ | more
    · cases beyond
    · cases parts
    · exact not_moreTerms_of_shift rfl more
  | empty => cases remains_empty_iff.mp remains
  | terms last before =>
    rcases remains_terms_iff.mp remains with beyond | ⟨us, parts, _⟩
    · cases beyond
    · cases parts

section Inside

variable {t : Token} {ts : List Token} (inside : t ≠ .glyph .turnstile)

include inside

theorem not_remains_empty : ¬Remains side .empty (t :: ts) :=
  fun remains => inside (remains_empty_iff.mp remains).head.2

theorem remains_start_cons_iff (unmarked : t ≠ .glyph .empty) :
    Remains side .start (t :: ts) ↔ MoreTerms side (t :: ts) := by
  refine ⟨fun remains => ?_, fun more => remains_start_iff.mpr (.inr (.inr more))⟩
  rcases remains_start_iff.mp remains with beyond | ⟨us, parts, _⟩ | more
  · exact (inside beyond.head.2).elim
  · exact (unmarked (List.cons.inj parts).1).elim
  · exact more

end Inside

theorem remains_empty_mark_iff {ts : List Token} :
    Remains side .start (.glyph .empty :: ts) ↔ Remains side .empty ts := by
  rw [remains_start_iff, remains_empty_iff]
  constructor
  · rintro (beyond | ⟨us, parts, beyond⟩ | more)
    · cases beyond.head.2
    · exact (List.cons.inj parts).2 ▸ beyond
    · exact (not_moreTerms_of_shift rfl more).elim
  · exact fun beyond => .inr (.inl ⟨ts, rfl, beyond⟩)

theorem remains_comma_iff {last : Formula} {before : List Formula} {ts : List Token} :
    Remains side (.terms last before) (.comma :: ts) ↔ MoreTerms side ts := by
  rw [remains_terms_iff]
  constructor
  · rintro (beyond | ⟨us, parts, more⟩)
    · cases beyond.head.2
    · exact (List.cons.inj parts).2 ▸ more
  · exact fun more => .inr ⟨ts, rfl, more⟩

theorem remains_left_iff {ts : List Token} :
    Remains .left .start ts ↔ ∃ s, WrittenSequent ts s := by
  constructor
  · rintro ⟨us, _, left, rfl, ⟨leftWritten⟩, vs, right, rfl, rightWritten⟩
    exact ⟨⟨left, right⟩, .mk leftWritten rightWritten⟩
  · rintro ⟨_, ⟨leftWritten, rightWritten⟩⟩
    exact ⟨_, _, _, rfl, .start leftWritten, _, _, rfl, rightWritten⟩

theorem remains_right_iff {ts : List Token} :
    Remains .right .start ts ↔ ∃ formulas, WrittenSide ts formulas := by
  constructor
  · rintro ⟨us, _, formulas, rfl, ⟨written⟩, rfl⟩
    exact ⟨formulas, by simpa using written⟩
  · rintro ⟨formulas, written⟩
    exact ⟨ts, [], formulas, by simp, .start written, rfl⟩

end Cursor

namespace Grammar

theorem Phrase.not_endsTerm {level : Level} {ts : List Token} {a : Formula}
    (phrase : Phrase level ts a) : ∀ t ∈ ts, t.endsTerm = false := by
  induction phrase with
  | name n => simp [Token.endsTerm]
  | neg _ ih => simpa [Token.endsTerm] using ih
  | group _ ih => simpa [Token.endsTerm, or_imp, forall_and] using ih
  | factor _ ih => exact ih
  | product _ ih => exact ih
  | conj _ _ first second | disj _ _ first second =>
    intro t member
    rcases List.mem_append.mp member with left | right
    · exact first t left
    · rcases List.mem_cons.mp right with rfl | right
      · rfl
      · exact second t right

theorem Terms.turnstile_not_mem {ts : List Token} {formulas : List Formula}
    (terms : Terms ts formulas) : .glyph .turnstile ∉ ts := by
  have outside {us : List Token} {a : Formula} (phrase : Phrase .term us a) :
      .glyph .turnstile ∉ us := by
    intro member
    cases phrase.not_endsTerm _ member
  induction terms with
  | one phrase => exact outside phrase
  | cons phrase _ ih => simpa using ⟨outside phrase, ih⟩

theorem WrittenSide.turnstile_not_mem {ts : List Token} {formulas : List Formula}
    (written : WrittenSide ts formulas) : .glyph .turnstile ∉ ts := by
  cases written with
  | nothing | empty => simp
  | terms terms => exact terms.turnstile_not_mem

/-- The turnstile is found in one place only, so the left side is determined. -/
theorem writtenSequent_append_iff {ts us : List Token} {formulas : List Formula}
    (written : WrittenSide ts formulas) :
    (∃ s, WrittenSequent (ts ++ .glyph .turnstile :: us) s) ↔
      ∃ others, WrittenSide us others := by
  constructor
  · rintro ⟨s, sequent⟩
    generalize whole : ts ++ .glyph .turnstile :: us = tokens at sequent
    cases sequent with
    | mk left right =>
      obtain ⟨_, _, rfl⟩ := (List.append_cons_inj_of_notMem left.turnstile_not_mem
        right.turnstile_not_mem).mp whole.symm
      exact ⟨_, right⟩
  · rintro ⟨others, right⟩
    exact ⟨_, .mk written right⟩

end Grammar

end Turnstile

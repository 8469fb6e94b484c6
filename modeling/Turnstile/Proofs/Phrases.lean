import Turnstile.Grammar
import Turnstile.OperandStack

/-! The operand stack against the grammar of phrases. A stack without a complete operand on top
awaits a phrase of some level, and what it was built from is an initial part of a term; this
holds of every stack that tokens lead to. So the stack amounts to a formula exactly where the
tokens form a term that means it. -/
namespace Turnstile.OperandStack

open Grammar

/-- Takes in tokens one after another. -/
def shiftAll (stack : OperandStack) (ts : List Token) : Except Complaint OperandStack :=
  ts.foldlM shift stack

@[simp]
theorem shiftAll_nil (stack : OperandStack) : stack.shiftAll [] = .ok stack := rfl

theorem shiftAll_cons {stack next : OperandStack} {t : Token} (ts : List Token)
    (shifted : stack.shift t = .ok next) : stack.shiftAll (t :: ts) = next.shiftAll ts := by
  simp [shiftAll, shifted, bind, Except.bind]

theorem shiftAll_cons_eq_ok_iff {stack last : OperandStack} {t : Token} {ts : List Token} :
    stack.shiftAll (t :: ts) = .ok last ↔
      ∃ next, stack.shift t = .ok next ∧ next.shiftAll ts = .ok last := by
  cases shifted : stack.shift t with
  | error e => simp [shiftAll, shifted, bind, Except.bind]
  | ok next => simp [shiftAll_cons ts shifted]

theorem shiftAll_append {stack next : OperandStack} {ts : List Token} (us : List Token)
    (shifted : stack.shiftAll ts = .ok next) :
    stack.shiftAll (ts ++ us) = next.shiftAll us := by
  induction ts generalizing stack with
  | nil =>
    cases shifted
    rfl
  | cons t ts ih =>
    obtain ⟨middle, first, rest⟩ := shiftAll_cons_eq_ok_iff.mp shifted
    rw [List.cons_append, shiftAll_cons _ first, ih rest]

theorem reduce_neg (a : Formula) (below : OperandStack) :
    reduce (.operand a :: .neg :: below) = reduce (.operand (.neg a) :: below) := by
  rw [reduce]

theorem reduce_conj (a b : Formula) (below : OperandStack) :
    reduce (.operand b :: .conj :: .operand a :: below) =
      reduce (.operand (.conj a b) :: below) := by
  rw [reduce]

theorem collapse_disj (a b : Formula) (below : OperandStack) :
    collapse (.operand b :: .disj :: .operand a :: below) =
      collapse (.operand (.disj a b) :: below) := by
  rw [collapse]

theorem shift_of_endsTerm {t : Token} (stack : OperandStack) (ends : t.endsTerm = true) :
    stack.shift t = .error .expectedMore := by
  cases t with
  | name | opening | closing => cases ends
  | comma => rfl
  | glyph g =>
    cases g with
    | turnstile => rfl
    | empty | neg | conj | disj => cases ends

theorem endsTerm_of_shift {t : Token} {stack next : OperandStack}
    (shifted : stack.shift t = .ok next) : t.endsTerm = false := by
  cases ends : t.endsTerm with
  | false => rfl
  | true =>
    rw [stack.shift_of_endsTerm ends] at shifted
    cases shifted

/-- Where a phrase of some level can start: a term at the bottom or behind a parenthesis, a
product also behind a disjunction, and a factor wherever no operand is on top. -/
inductive Fits : Level → OperandStack → Prop where
  | bottom : Fits .term []
  | opening (below : OperandStack) : Fits .term (.opening :: below)
  | term {stack : OperandStack} : Fits .term stack → Fits .product stack
  | disj (below : OperandStack) : Fits .product (.disj :: below)
  | factor {stack : OperandStack} : stack.topIsOperand = false → Fits .factor stack

theorem Fits.topIsOperand {level : Level} {stack : OperandStack} (fits : Fits level stack) :
    stack.topIsOperand = false := by
  induction fits with
  | bottom | opening | disj => rfl
  | term _ ih => exact ih
  | factor top => exact top

theorem Fits.reduce_operand {stack : OperandStack} (fits : Fits .product stack) (a : Formula) :
    reduce (.operand a :: stack) = .operand a :: stack := by
  cases fits with
  | term fits => cases fits <;> rw [reduce] <;> simp
  | disj below => rw [reduce] <;> simp

theorem Fits.collapse_operand {stack : OperandStack} (fits : Fits .term stack) (a : Formula) :
    collapse (.operand a :: stack) = .operand a :: stack := by
  cases fits <;> rw [collapse] <;> simp

theorem Fits.collapse_eq {level : Level} {stack : OperandStack} (fits : Fits level stack) :
    stack.collapse = stack := by
  have top := fits.topIsOperand
  rw [collapse]
  rintro b a below rfl
  simp [OperandStack.topIsOperand] at top

/-- What taking in the tokens of a phrase does to any stack on which it can start. Only the
disjunctions of a term are left for later. -/
def Takes (ts : List Token) (a : Formula) : Level → Prop
  | .factor => ∀ stack, Fits .factor stack →
      stack.shiftAll ts = .ok (reduce (.operand a :: stack))
  | .product => ∀ stack, Fits .product stack → stack.shiftAll ts = .ok (.operand a :: stack)
  | .term => ∀ stack, Fits .term stack → ∃ next, stack.shiftAll ts = .ok next ∧
      next.topIsOperand = true ∧ next.collapse = .operand a :: stack

theorem phrase_takes {level : Level} {ts : List Token} {a : Formula}
    (phrase : Phrase level ts a) : Takes ts a level := by
  induction phrase with
  | name n =>
    intro stack fits
    have shifted : stack.shift (.name n) = .ok (reduce (.operand (.var n) :: stack)) := by
      simp [shift, beforeOperand, fits.topIsOperand]
    rw [shiftAll_cons [] shifted, shiftAll_nil]
  | @neg ts a _ ih =>
    intro stack fits
    have shifted : stack.shift (.glyph .neg) = .ok (.neg :: stack) := by
      simp [shift, beforeOperand, fits.topIsOperand]
    rw [shiftAll_cons ts shifted, ih (.neg :: stack) (.factor rfl), reduce_neg]
  | @group ts a _ ih =>
    intro stack fits
    have opened : stack.shift .opening = .ok (.opening :: stack) := by
      simp [shift, beforeOperand, fits.topIsOperand]
    obtain ⟨next, inner, _, collapsed⟩ := ih (.opening :: stack) (.opening stack)
    have closed : next.shift .closing = .ok (reduce (.operand a :: stack)) := by
      simp [shift, collapsed]
    rw [shiftAll_cons _ opened, shiftAll_append _ inner, shiftAll_cons _ closed, shiftAll_nil]
  | factor _ ih =>
    intro stack fits
    rw [ih stack (.factor fits.topIsOperand), fits.reduce_operand]
  | @conj ts us a b _ _ left right =>
    intro stack fits
    have shifted : shift (.operand a :: stack) (.glyph .conj) =
        .ok (.conj :: .operand a :: stack) := rfl
    rw [shiftAll_append _ (left stack fits), shiftAll_cons us shifted,
      right (.conj :: .operand a :: stack) (.factor rfl), reduce_conj, fits.reduce_operand]
  | @product ts a _ ih =>
    intro stack fits
    exact ⟨_, ih stack (.term fits), rfl, fits.collapse_operand a⟩
  | @disj ts us a b _ _ left right =>
    intro stack fits
    obtain ⟨next, first, complete, collapsed⟩ := left stack fits
    have shifted : next.shift (.glyph .disj) = .ok (.disj :: .operand a :: stack) := by
      simp [shift, afterOperand, complete, collapsed]
    have second := right (.disj :: .operand a :: stack) (.disj _)
    refine ⟨.operand b :: .disj :: .operand a :: stack, ?_, rfl, ?_⟩
    · rw [shiftAll_append _ first, shiftAll_cons us shifted, second]
    · rw [collapse_disj, fits.collapse_operand]

/-- The tokens behind a stack that awaits a phrase of some level. Every operand in it is a
phrase that the tokens before it leave room for. -/
inductive Awaits : Level → List Token → OperandStack → Prop where
  | start : Awaits .term [] []
  | opening {ts : List Token} {stack : OperandStack} :
      Awaits .factor ts stack → Awaits .term (ts ++ [.opening]) (.opening :: stack)
  | term {ts : List Token} {stack : OperandStack} :
      Awaits .term ts stack → Awaits .product ts stack
  | disj {ts us : List Token} {a : Formula} {stack : OperandStack} :
      Awaits .term ts stack → Phrase .term us a →
        Awaits .product (ts ++ us ++ [.glyph .disj]) (.disj :: .operand a :: stack)
  | product {ts : List Token} {stack : OperandStack} :
      Awaits .product ts stack → Awaits .factor ts stack
  | conj {ts us : List Token} {a : Formula} {stack : OperandStack} :
      Awaits .product ts stack → Phrase .product us a →
        Awaits .factor (ts ++ us ++ [.glyph .conj]) (.conj :: .operand a :: stack)
  | neg {ts : List Token} {stack : OperandStack} :
      Awaits .factor ts stack → Awaits .factor (ts ++ [.glyph .neg]) (.neg :: stack)

theorem Awaits.fits {level : Level} {ts : List Token} {stack : OperandStack}
    (awaits : Awaits level ts stack) : Fits level stack := by
  induction awaits with
  | start => exact .bottom
  | opening _ _ => exact .opening _
  | term _ ih => exact .term ih
  | disj _ _ _ => exact .disj _
  | product _ ih => exact .factor ih.topIsOperand
  | conj _ _ _ => exact .factor rfl
  | neg _ _ => exact .factor rfl

/-- The tokens behind any stack that can be reached. A complete operand is a whole product,
because negations and conjunctions do not wait. -/
inductive Represents : List Token → OperandStack → Prop where
  | awaiting {ts : List Token} {stack : OperandStack} :
      Awaits .factor ts stack → Represents ts stack
  | complete {ts us : List Token} {a : Formula} {stack : OperandStack} :
      Awaits .product ts stack → Phrase .product us a →
        Represents (ts ++ us) (.operand a :: stack)

theorem Awaits.represents_reduce {ts us : List Token} {stack : OperandStack} {a : Formula}
    (awaits : Awaits .factor ts stack) (phrase : Phrase .factor us a) :
    Represents (ts ++ us) (reduce (.operand a :: stack)) := by
  -- Negations may be nested to any depth, so the operand grows along the induction.
  generalize same : Level.factor = level at awaits
  induction awaits generalizing us a with
  | start | opening | term | disj => cases same
  | product awaits _ =>
    rw [awaits.fits.reduce_operand]
    exact .complete awaits (.factor phrase)
  | conj awaits left _ =>
    rw [reduce_conj, awaits.fits.reduce_operand]
    simpa using Represents.complete awaits (.conj left phrase)
  | neg awaits ih =>
    rw [reduce_neg]
    simpa using ih (.neg phrase) rfl

/-- Applying the disjunctions at the top leaves a whole term and room for it. -/
theorem Awaits.collapse_operand {ts us : List Token} {stack : OperandStack} {a : Formula}
    (awaits : Awaits .product ts stack) (phrase : Phrase .product us a) :
    ∃ ts' us' b below, ts ++ us = ts' ++ us' ∧ Awaits .term ts' below ∧ Phrase .term us' b ∧
      collapse (.operand a :: stack) = .operand b :: below := by
  cases awaits with
  | term awaits =>
    exact ⟨ts, us, a, stack, rfl, awaits, .product phrase, awaits.fits.collapse_operand a⟩
  | @disj ts vs b below awaits left =>
    refine ⟨ts, vs ++ .glyph .disj :: us, .disj b a, below, by simp, awaits,
      .disj left phrase, ?_⟩
    rw [collapse_disj, awaits.fits.collapse_operand]

/-- Every token that is taken in extends what the stack stands for. -/
theorem Represents.shift {ts : List Token} {stack next : OperandStack} {t : Token}
    (represents : Represents ts stack) (shifted : stack.shift t = .ok next) :
    Represents (ts ++ [t]) next := by
  cases represents with
  | awaiting awaits =>
    have top := awaits.fits.topIsOperand
    cases t with
    | name n =>
      obtain rfl : reduce (.operand (.var n) :: stack) = next := by
        simpa [OperandStack.shift, beforeOperand, top] using shifted
      exact awaits.represents_reduce (.name n)
    | opening =>
      obtain rfl : .opening :: stack = next := by
        simpa [OperandStack.shift, beforeOperand, top] using shifted
      exact .awaiting (.product (.term (.opening awaits)))
    | closing =>
      simp only [OperandStack.shift, awaits.fits.collapse_eq] at shifted
      split at shifted
      · simp [topIsOperand] at top
      · cases shifted
    | comma => cases shifted
    | glyph g =>
      cases g with
      | neg =>
        obtain rfl : .neg :: stack = next := by
          simpa [OperandStack.shift, beforeOperand, top] using shifted
        exact .awaiting (.neg awaits)
      | conj | disj => simp [OperandStack.shift, afterOperand, top] at shifted
      | empty | turnstile => cases shifted
  | @complete ts us a stack awaits phrase =>
    obtain ⟨ts', us', b, below, same, outer, term, collapsed⟩ := awaits.collapse_operand phrase
    cases t with
    | name | opening => cases shifted
    | comma => cases shifted
    | closing =>
      simp only [OperandStack.shift, collapsed] at shifted
      split at shifted
      · rename_i c rest parts
        cases parts
        cases shifted
        -- A whole term stands above the parenthesis, which was put where a factor fits.
        cases outer with
        | opening outer =>
          simpa [same] using outer.represents_reduce (.group term)
      · cases shifted
    | glyph g =>
      cases g with
      | conj =>
        cases shifted
        exact .awaiting (.conj awaits phrase)
      | disj =>
        simp only [OperandStack.shift, afterOperand, topIsOperand, collapsed] at shifted
        cases shifted
        rw [same]
        exact .awaiting (.product (.disj outer term))
      | neg | empty | turnstile => cases shifted

theorem Represents.shiftAll {ts us : List Token} {stack last : OperandStack}
    (represents : Represents ts stack) (shifted : stack.shiftAll us = .ok last) :
    Represents (ts ++ us) last := by
  induction us generalizing ts stack with
  | nil =>
    cases shifted
    simpa using represents
  | cons t us ih =>
    obtain ⟨next, first, rest⟩ := shiftAll_cons_eq_ok_iff.mp shifted
    simpa using ih (represents.shift first) rest

theorem represents_of_shiftAll {ts : List Token} {stack : OperandStack}
    (shifted : shiftAll [] ts = .ok stack) : Represents ts stack := by
  simpa using (Represents.awaiting (.product (.term .start))).shiftAll shifted

theorem Represents.phrase_of_finish {ts : List Token} {stack : OperandStack} {a : Formula}
    (represents : Represents ts stack) (finished : stack.finish = .ok a) :
    Phrase .term ts a := by
  cases represents with
  | awaiting awaits =>
    have top := awaits.fits.topIsOperand
    simp only [finish, awaits.fits.collapse_eq] at finished
    split at finished
    · simp [topIsOperand] at top
    · cases finished
    · cases finished
  | @complete ts us b stack awaits phrase =>
    obtain ⟨ts', us', c, below, same, outer, term, collapsed⟩ := awaits.collapse_operand phrase
    simp only [finish, collapsed] at finished
    split at finished
    · rename_i d parts
      cases parts
      cases finished
      cases outer
      rwa [same]
    · cases finished
    · cases finished

/-- The stack amounts to a formula exactly where the grammar gives the tokens that meaning. -/
theorem finish_iff_phrase {ts : List Token} {a : Formula} :
    (∃ stack, shiftAll [] ts = .ok stack ∧ stack.finish = .ok a) ↔ Phrase .term ts a := by
  constructor
  · rintro ⟨stack, shifted, finished⟩
    exact (represents_of_shiftAll shifted).phrase_of_finish finished
  · intro phrase
    obtain ⟨stack, shifted, _, collapsed⟩ := phrase_takes phrase [] .bottom
    exact ⟨stack, shifted, by simp [finish, collapsed]⟩

theorem exists_shift_of_phrase {ts : List Token} {a : Formula} (phrase : Phrase .term ts a) :
    ∃ t rest next, ts = t :: rest ∧ shift [] t = .ok next := by
  obtain ⟨stack, shifted, finished⟩ := finish_iff_phrase.mpr phrase
  cases ts with
  | nil =>
    cases shifted
    simp [finish, collapse] at finished
  | cons t rest =>
    obtain ⟨next, first, _⟩ := shiftAll_cons_eq_ok_iff.mp shifted
    exact ⟨t, rest, next, rfl, first⟩

end Turnstile.OperandStack

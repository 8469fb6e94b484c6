import Turnstile.Cursor

/-! The tokens that characters spell, and the tokens that a cursor passes. The first is a rule
of writing that knows no position; the second follows the cursor from token to token. They
agree on every text. A cursor never leaves its text, and its offset is that of the character
that follows. -/
namespace Turnstile

namespace Text

variable {inClass : Char → Bool} {run rest : List Char}

/-- A run of characters of a class is the longest one if none of them follows. -/
theorem span_run (inside : ∀ c ∈ run, inClass c = true)
    (outside : ∀ c, rest.head? = some c → inClass c = false) :
    (run ++ rest).takeWhile inClass = run ∧ (run ++ rest).dropWhile inClass = rest := by
  rw [List.takeWhile_append_of_pos inside, List.dropWhile_append_of_pos inside]
  cases rest with
  | nil => simp
  | cons c rest => simp [outside c rfl]

theorem run_inj (inClass : Char → Bool) {other more : List Char}
    (inside : ∀ c ∈ run, inClass c = true)
    (outside : ∀ c, rest.head? = some c → inClass c = false)
    (insideOther : ∀ c ∈ other, inClass c = true)
    (outsideOther : ∀ c, more.head? = some c → inClass c = false)
    (same : run ++ rest = other ++ more) : run = other ∧ rest = more := by
  obtain ⟨taken, dropped⟩ := span_run inside outside
  rw [same] at taken dropped
  obtain ⟨takenOther, droppedOther⟩ := span_run insideOther outsideOther
  exact ⟨taken.symm.trans takenOther, dropped.symm.trans droppedOther⟩

end Text

namespace Grammar

/-- No letter or digit stands first, so that a name before these characters ends there. -/
def Bounded (chars : List Char) : Prop :=
  ∀ c, chars.head? = some c → Token.continuesName c = false

theorem bounded_cons {c : Char} (apart : Token.continuesName c = false) (rest : List Char) :
    Bounded (c :: rest) := by
  intro d head
  cases head
  exact apart

/-- How tokens are written: a name as the longest word that starts with a letter, any other
token as one character, and blanks anywhere but inside a name. -/
inductive Spells : List Char → List Token → Prop where
  | done : Spells [] []
  | blank {c : Char} {rest : List Char} {ts : List Token} :
      Token.isBlank c = true → Spells rest ts → Spells (c :: rest) ts
  | name {first : Char} {word rest : List Char} {ts : List Token} :
      Token.startsName first = true → (∀ c ∈ word, Token.continuesName c = true) →
        Bounded rest → Spells rest ts →
          Spells (first :: (word ++ rest)) (.name (String.ofList (first :: word)) :: ts)
  | mark {c : Char} {t : Token} {rest : List Char} {ts : List Token} :
      Token.ofChar? c = some t → Spells rest ts → Spells (c :: rest) (t :: ts)

theorem Spells.of_dropWhile {chars : List Char} {ts : List Token}
    (spells : Spells (chars.dropWhile Token.isBlank) ts) : Spells chars ts := by
  induction chars with
  | nil => exact spells
  | cons c rest ih =>
    cases blank : Token.isBlank c with
    | true => exact .blank blank (ih (by simpa [blank] using spells))
    | false => simpa [blank] using spells

theorem Spells.isName {chars : List Char} {ts : List Token} (spells : Spells chars ts) {n : String}
    (member : .name n ∈ ts) : IsName n := by
  induction spells with
  | done => cases member
  | blank _ _ ih => exact ih member
  | @name first word rest ts starts continues _ _ ih =>
    rcases List.mem_cons.mp member with same | later
    · cases same
      exact ⟨first, word, by simp, starts, List.all_eq_true.mpr continues⟩
    · exact ih later
  | @mark c t rest ts written _ ih =>
    rcases List.mem_cons.mp member with rfl | later
    · unfold Token.ofChar? at written
      split at written <;> simp at written
    · exact ih later

end Grammar

namespace Token

/-- A character that is a token of its own is neither blank nor part of a name. -/
theorem ofChar?_eq_some {c : Char} {t : Token} (written : ofChar? c = some t) :
    isBlank c = false ∧ startsName c = false ∧ continuesName c = false := by
  unfold ofChar? at written
  split at written
  · decide
  · decide
  · decide
  · obtain ⟨g, found, _⟩ := Option.map_eq_some_iff.mp written
    have hit := List.find?_some found
    cases g <;> simp [Glyph.char, Glyph.alias?] at hit
    case empty => subst hit; decide
    all_goals rcases hit with rfl | rfl <;> decide

theorem not_isBlank_of_startsName {c : Char} (starts : startsName c = true) :
    isBlank c = false := by
  cases blank : isBlank c with
  | false => rfl
  | true =>
    simp only [isBlank, Bool.or_eq_true, beq_iff_eq] at blank
    rcases blank with rfl | rfl <;> cases starts

end Token

namespace Cursor

open Grammar

theorem skipBlanks_of_not_isBlank {offset : Nat} {first : Char} {rest : List Char}
    (visible : Token.isBlank first = false) :
    skipBlanks ⟨offset, first :: rest⟩ = ⟨offset, first :: rest⟩ := by
  simp [skipBlanks, visible]

theorem skipBlanks_of_isBlank {offset : Nat} {first : Char} {rest : List Char}
    (blank : Token.isBlank first = true) :
    skipBlanks ⟨offset, first :: rest⟩ = skipBlanks ⟨offset + 1, rest⟩ := by
  simp only [skipBlanks, List.takeWhile_cons, List.dropWhile_cons, blank, if_true,
    List.length_cons, Cursor.mk.injEq, and_true]
  omega

theorem skipBlanks_append {offset : Nat} {blanks rest : List Char}
    (blank : ∀ x ∈ blanks, Token.isBlank x = true) :
    skipBlanks ⟨offset, blanks ++ rest⟩ = skipBlanks ⟨offset + blanks.length, rest⟩ := by
  induction blanks generalizing offset with
  | nil => rfl
  | cons x blanks ih =>
    rw [List.cons_append, skipBlanks_of_isBlank (blank x List.mem_cons_self),
      ih fun y member => blank y (List.mem_cons_of_mem x member), List.length_cons,
      Nat.add_right_comm, Nat.add_assoc]

theorem sight_eq_finish_iff {c : Cursor} : c.sight = .finish ↔ c.rest = [] := by
  unfold sight
  split
  · simp [*]
  · rename_i chars
    rw [chars]
    split
    · simp
    · split <;> simp

theorem sight_eq_invalid_iff {c : Cursor} :
    c.sight = .invalid ↔ ∃ first rest, c.rest = first :: rest ∧ Token.startsName first = false ∧
      Token.ofChar? first = none := by
  unfold sight
  split
  · simp [*]
  · rename_i first rest chars
    cases starts : Token.startsName first with
    | true => simp [chars, starts]
    | false => cases read : Token.ofChar? first <;> simp [chars, starts, read]

theorem sight_name {offset : Nat} {first : Char} {word rest : List Char}
    (starts : Token.startsName first = true)
    (continues : ∀ c ∈ word, Token.continuesName c = true) (bounded : Bounded rest) :
    sight ⟨offset, first :: (word ++ rest)⟩ =
      .token (.name (String.ofList (first :: word)))
        (skipBlanks ⟨offset + (word.length + 1), rest⟩) := by
  obtain ⟨taken, dropped⟩ := Text.span_run continues bounded
  simp only [sight, starts, taken, dropped, if_true, pass]

theorem sight_mark {offset : Nat} {first : Char} {rest : List Char} {t : Token}
    (written : Token.ofChar? first = some t) :
    sight ⟨offset, first :: rest⟩ = .token t (skipBlanks ⟨offset + 1, rest⟩) := by
  simp [sight, (Token.ofChar?_eq_some written).2.1, written, pass]

/-- What a cursor that sees a token stands before. -/
theorem sight_eq_token {c after : Cursor} {t : Token} (seen : c.sight = .token t after) :
    (∃ first word rest, c.rest = first :: (word ++ rest) ∧ Token.startsName first = true ∧
      (∀ x ∈ word, Token.continuesName x = true) ∧ Bounded rest ∧
      t = .name (String.ofList (first :: word)) ∧
      after = skipBlanks ⟨c.offset + (word.length + 1), rest⟩) ∨
    ∃ first rest, c.rest = first :: rest ∧ Token.ofChar? first = some t ∧
      after = skipBlanks ⟨c.offset + 1, rest⟩ := by
  unfold sight at seen
  split at seen
  · cases seen
  · rename_i first rest chars
    split at seen
    · rename_i starts
      cases seen
      refine .inl ⟨first, rest.takeWhile Token.continuesName, rest.dropWhile Token.continuesName,
        by simp [chars], starts, ?_, ?_, rfl, rfl⟩
      · intro x member
        exact List.all_eq_true.mp List.all_takeWhile x member
      · intro x head
        have stops := List.head?_dropWhile_not Token.continuesName rest
        simpa [head] using stops
    · split at seen
      · rename_i written
        cases seen
        exact .inr ⟨first, rest, chars, written, rfl⟩
      · cases seen

/-- The cursor sees some tokens one after another and stands elsewhere after them. -/
inductive Passes : Cursor → List Token → Cursor → Prop where
  | stay (c : Cursor) : Passes c [] c
  | token {c next last : Cursor} {t : Token} {ts : List Token} :
      c.sight = .token t next → Passes next ts last → Passes c (t :: ts) last

theorem passes_nil_iff {c last : Cursor} : c.Passes [] last ↔ last = c := by
  constructor
  · rintro ⟨⟩
    rfl
  · rintro rfl
    exact .stay last

theorem passes_cons_iff {c last : Cursor} {t : Token} {ts : List Token} :
    c.Passes (t :: ts) last ↔ ∃ next, c.sight = .token t next ∧ next.Passes ts last := by
  constructor
  · rintro ⟨⟩
    exact ⟨_, ‹_›, ‹_›⟩
  · rintro ⟨next, seen, passes⟩
    exact .token seen passes

theorem passes_append_iff {c last : Cursor} {ts us : List Token} :
    c.Passes (ts ++ us) last ↔ ∃ middle, c.Passes ts middle ∧ middle.Passes us last := by
  induction ts generalizing c with
  | nil => simp [passes_nil_iff]
  | cons t ts ih =>
    simp only [List.cons_append, passes_cons_iff, ih]
    constructor
    · rintro ⟨next, seen, middle, first, second⟩
      exact ⟨middle, ⟨next, seen, first⟩, second⟩
    · rintro ⟨middle, ⟨next, seen, first⟩, second⟩
      exact ⟨next, seen, middle, first, second⟩

theorem passes_of_spells {offset : Nat} {chars : List Char} {ts : List Token}
    (spells : Spells chars ts) :
    ∃ last, (skipBlanks ⟨offset, chars⟩).Passes ts last ∧ last.rest = [] := by
  induction spells generalizing offset with
  | done => exact ⟨_, .stay _, rfl⟩
  | blank blank _ ih =>
    rw [skipBlanks_of_isBlank blank]
    exact ih
  | name starts continues bounded _ ih =>
    rw [skipBlanks_of_not_isBlank (Token.not_isBlank_of_startsName starts)]
    obtain ⟨last, passes, finished⟩ := ih
    exact ⟨last, .token (sight_name starts continues bounded) passes, finished⟩
  | mark written _ ih =>
    rw [skipBlanks_of_not_isBlank (Token.ofChar?_eq_some written).1]
    obtain ⟨last, passes, finished⟩ := ih
    exact ⟨last, .token (sight_mark written) passes, finished⟩

theorem Passes.spells {c last : Cursor} {ts : List Token} (passes : c.Passes ts last)
    (finished : last.rest = []) : Spells c.rest ts := by
  induction passes with
  | stay c => exact finished ▸ .done
  | token seen _ ih =>
    rcases sight_eq_token seen with
      ⟨first, word, rest, chars, starts, continues, bounded, rfl, rfl⟩ |
        ⟨first, rest, chars, written, rfl⟩
    · exact chars ▸ .name starts continues bounded (ih finished).of_dropWhile
    · exact chars ▸ .mark written (ih finished).of_dropWhile

/-- A text spells exactly the tokens that a cursor passes on its way to the end. -/
theorem spells_iff_passes {text : String} {ts : List Token} :
    Spells text.toList ts ↔ ∃ last, (ofString text).Passes ts last ∧ last.sight = .finish := by
  simp only [sight_eq_finish_iff]
  constructor
  · exact passes_of_spells
  · rintro ⟨last, passes, finished⟩
    exact (passes.spells finished).of_dropWhile

/-- The tokens of a lexing without their offsets. -/
def Lexing.plain (l : Lexing) : List Token :=
  l.tokens.map Prod.fst

theorem lex_of_finish {c : Cursor} (seen : c.sight = .finish) : c.lex = ⟨[], c.offset, true⟩ := by
  rw [lex]
  split <;> simp_all

theorem lex_of_invalid {c : Cursor} (seen : c.sight = .invalid) :
    c.lex = ⟨[], c.offset, false⟩ := by
  rw [lex]
  split <;> simp_all

theorem lex_of_token {c next : Cursor} {t : Token} (seen : c.sight = .token t next) :
    c.lex = { next.lex with tokens := (t, c.offset) :: next.lex.tokens } := by
  rw [lex]
  split <;> simp_all

/-- A cursor that stands in a text, where no blank follows. -/
structure StandsIn (text : String) (c : Cursor) : Prop where
  passed : ∃ chars, text.toList = chars ++ c.rest ∧ c.offset = chars.length
  visible : ∀ x, c.rest.head? = some x → Token.isBlank x = false

theorem standsIn_skipBlanks {text : String} {c : Cursor} (chars : List Char)
    (parts : text.toList = chars ++ c.rest) (count : c.offset = chars.length) :
    StandsIn text c.skipBlanks := by
  refine ⟨⟨chars ++ c.rest.takeWhile Token.isBlank, ?_, ?_⟩, fun x head => ?_⟩
  · simp [skipBlanks, parts]
  · simp [skipBlanks, count]
  · have stops := List.head?_dropWhile_not Token.isBlank c.rest
    simp only [skipBlanks] at head
    simpa [head] using stops

theorem standsIn_ofString (text : String) : StandsIn text (ofString text) :=
  standsIn_skipBlanks [] rfl rfl

theorem StandsIn.next {text : String} {c after : Cursor} {t : Token} (stands : StandsIn text c)
    (seen : c.sight = .token t after) : StandsIn text after := by
  obtain ⟨chars, parts, count⟩ := stands.passed
  rcases sight_eq_token seen with
    ⟨first, word, rest, here, _, _, _, _, rfl⟩ | ⟨first, rest, here, _, rfl⟩
  · exact standsIn_skipBlanks (chars ++ first :: word) (by simp [parts, here])
      (by simp [count])
  · exact standsIn_skipBlanks (chars ++ [first]) (by simp [parts, here])
      (by simp [count])

theorem StandsIn.offset_le {text : String} {c : Cursor} (stands : StandsIn text c) :
    c.offset ≤ text.length := by
  obtain ⟨chars, parts, count⟩ := stands.passed
  rw [count, ← String.length_toList, parts]
  simp

theorem StandsIn.getElem?_offset {text : String} {c : Cursor} (stands : StandsIn text c) :
    text.toList[c.offset]? = c.rest.head? := by
  obtain ⟨chars, parts, count⟩ := stands.passed
  rw [parts, count, List.getElem?_append_right (Nat.le_refl _), Nat.sub_self,
    List.head?_eq_getElem?]

theorem StandsIn.stop_eq_length {text : String} {c : Cursor} (stands : StandsIn text c)
    (complete : c.lex.complete = true) : c.lex.stop = text.length := by
  fun_induction lex c with
  | case1 c seen =>
    obtain ⟨chars, parts, count⟩ := stands.passed
    rw [sight_eq_finish_iff.mp seen, List.append_nil] at parts
    rw [count, ← String.length_toList, parts]
  | case2 => cases complete
  | case3 c t after seen tail ih => exact ih (stands.next seen) complete

end Cursor

end Turnstile

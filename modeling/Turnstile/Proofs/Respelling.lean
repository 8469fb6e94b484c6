import Mathlib.Data.List.Basic
import Turnstile.Proofs.Relocation

/-! Spelling and spacing. A symbol that has two spellings may be written either way, and blanks may
stand anywhere but inside a word. A text that is edited so reads as before: to the same sequent, or
to the same complaint, at the place that the edit has moved it to. -/
namespace Turnstile

/-- The other spelling of a symbol that has two. Any other character stands for itself. -/
def Glyph.otherSpelling (c : Char) : Char :=
  match ofChar? c with
  | none => c
  | some g => if c = g.char then g.alias?.getD c else g.char

namespace Token

open Glyph

theorem otherSpelling_of_plain {c : Char} (plain : ofChar? c = none) : otherSpelling c = c := by
  have unread : Glyph.ofChar? c = none := by
    unfold ofChar? at plain
    split at plain
    · cases plain
    · cases plain
    · cases plain
    · exact Option.map_eq_none_iff.mp plain
  rw [otherSpelling, unread]

theorem ofChar?_otherSpelling (c : Char) : ofChar? (otherSpelling c) = ofChar? c := by
  cases read : Glyph.ofChar? c with
  | none => rw [otherSpelling, read]
  | some g =>
    have hit := List.find?_some read
    cases g <;> simp [Glyph.char, Glyph.alias?] at hit
    case empty => subst hit; decide
    all_goals rcases hit with rfl | rfl <;> decide

/-- Blanks, letters and digits have one spelling, and no symbol has a spelling among them. -/
theorem otherSpelling_class (c : Char) :
    isBlank (otherSpelling c) = isBlank c ∧ startsName (otherSpelling c) = startsName c ∧
      continuesName (otherSpelling c) = continuesName c := by
  cases read : ofChar? c with
  | none =>
    rw [otherSpelling_of_plain read]
    exact ⟨rfl, rfl, rfl⟩
  | some t =>
    have here := ofChar?_eq_some read
    have there := ofChar?_eq_some ((ofChar?_otherSpelling c).trans read)
    simp [here, there]

theorem otherSpelling_of_continuesName {c : Char} (continues : continuesName c = true) :
    otherSpelling c = c := by
  apply otherSpelling_of_plain
  cases read : ofChar? c with
  | none => rfl
  | some t => simp [(ofChar?_eq_some read).2.2] at continues

theorem continuesName_of_startsName {c : Char} (starts : startsName c = true) :
    continuesName c = true := by
  simp_all [startsName, continuesName, Char.isAlphanum]

theorem not_continuesName_of_isBlank {c : Char} (blank : isBlank c = true) :
    continuesName c = false := by
  simp only [isBlank, Bool.or_eq_true, beq_iff_eq] at blank
  rcases blank with rfl | rfl <;> rfl

end Token

/-- Other spellings for some symbols of a text, and blanks before some of its characters or at its
end. No blank comes between two letters or digits. -/
structure Edit (text : String) where
  respells : Nat → Bool
  gap : Nat → List Char
  gap_blank : ∀ i, ∀ x ∈ gap i, Token.isBlank x = true
  gap_apart : ∀ i x y, text.toList[i]? = some x → text.toList[i + 1]? = some y →
    Token.continuesName x = true → Token.continuesName y = true → gap (i + 1) = []

namespace Edit

open Grammar Cursor

variable {text : String} (e : Edit text)

def char (i : Nat) (c : Char) : Char :=
  if e.respells i then Glyph.otherSpelling c else c

/-- The characters from an offset on, edited, with all blanks but those before the first. -/
def chars (i : Nat) : List Char → List Char
  | [] => []
  | c :: rest => e.char i c :: (e.gap (i + 1) ++ chars (i + 1) rest)

/-- The edited text. -/
def result : String :=
  String.ofList (e.gap 0 ++ e.chars 0 text.toList)

/-- How many blanks are put in at offsets up to the given one. -/
def inserted (offset : Nat) : Nat :=
  ((List.range (offset + 1)).flatMap e.gap).length

/-- Where the character at an offset is after the edit. -/
def offset (i : Nat) : Nat :=
  i + e.inserted i

def cursor (c : Cursor) : Cursor :=
  ⟨e.offset c.offset, e.chars c.offset c.rest⟩

theorem offset_zero : e.offset 0 = (e.gap 0).length := by
  simp [offset, inserted]

theorem inserted_succ (i : Nat) :
    e.inserted (i + 1) = e.inserted i + (e.gap (i + 1)).length := by
  rw [inserted, List.range_succ, List.flatMap_append, List.length_append, List.flatMap_singleton]
  rfl

theorem offset_succ (i : Nat) : e.offset (i + 1) = e.offset i + 1 + (e.gap (i + 1)).length := by
  rw [offset, offset, inserted_succ]
  omega

theorem ofChar?_char (i : Nat) (c : Char) : Token.ofChar? (e.char i c) = Token.ofChar? c := by
  unfold char
  split
  · exact Token.ofChar?_otherSpelling c
  · rfl

theorem char_class (i : Nat) (c : Char) :
    Token.isBlank (e.char i c) = Token.isBlank c ∧
      Token.startsName (e.char i c) = Token.startsName c ∧
      Token.continuesName (e.char i c) = Token.continuesName c := by
  unfold char
  split
  · exact Token.otherSpelling_class c
  · exact ⟨rfl, rfl, rfl⟩

theorem char_of_continuesName (i : Nat) {c : Char} (continues : Token.continuesName c = true) :
    e.char i c = c := by
  unfold char
  split
  · exact Token.otherSpelling_of_continuesName continues
  · rfl

theorem skipBlanks_gap (i : Nat) (rest : List Char) :
    skipBlanks ⟨e.offset i + 1, e.gap (i + 1) ++ rest⟩ =
      skipBlanks ⟨e.offset (i + 1), rest⟩ := by
  rw [skipBlanks_append (e.gap_blank (i + 1)), offset_succ]

/-- Skipping blanks leads to the same character before and after the edit. -/
theorem skipBlanks_cursor (c : Cursor) : (e.cursor c).skipBlanks = e.cursor c.skipBlanks := by
  obtain ⟨i, rest⟩ := c
  induction rest generalizing i with
  | nil => rfl
  | cons c rest ih =>
    cases blank : Token.isBlank c with
    | true =>
      have blankThere := (e.char_class i c).1.trans blank
      rw [skipBlanks_of_isBlank blank, ← ih, cursor, chars, skipBlanks_of_isBlank blankThere,
        skipBlanks_gap]
      rfl
    | false =>
      have visibleThere := (e.char_class i c).1.trans blank
      rw [skipBlanks_of_not_isBlank blank, cursor, chars, skipBlanks_of_not_isBlank visibleThere]

theorem ofString_result : ofString e.result = e.cursor (ofString text) := by
  have start : skipBlanks ⟨0, e.gap 0 ++ e.chars 0 text.toList⟩ =
      (e.cursor ⟨0, text.toList⟩).skipBlanks := by
    rw [skipBlanks_append (e.gap_blank 0), cursor, offset_zero, Nat.zero_add]
  rw [ofString, ofString, ← skipBlanks_cursor, ← start, result, String.toList_ofList]

/-- A word is left as it is, and what follows moves with it. -/
theorem chars_word {before word rest : List Char} {first : Char}
    (parts : text.toList = before ++ first :: (word ++ rest))
    (starts : Token.continuesName first = true)
    (continues : ∀ x ∈ word, Token.continuesName x = true) :
    e.offset (before.length + word.length) = e.offset before.length + word.length ∧
      e.chars before.length (first :: (word ++ rest)) =
        first :: (word ++ (e.gap (before.length + word.length + 1) ++
          e.chars (before.length + word.length + 1) rest)) := by
  induction word generalizing before first with
  | nil => simp [chars, e.char_of_continuesName _ starts]
  | cons x word ih =>
    -- No blank comes between the first two characters; the rest is a word that starts one later.
    have here : Token.continuesName x = true := continues x List.mem_cons_self
    have empty : e.gap (before.length + 1) = [] := by
      apply e.gap_apart before.length first x ?_ ?_ starts here
      · simp [parts]
      · simp [parts]
    have further : text.toList = (before ++ [first]) ++ x :: (word ++ rest) := by simp [parts]
    obtain ⟨place, same⟩ := ih further here fun y member => continues y (.tail x member)
    simp only [List.length_append, List.length_singleton] at place same
    have behind : before.length + (x :: word).length = before.length + 1 + word.length := by
      simp only [List.length_cons]
      omega
    rw [behind]
    constructor
    · rw [place, e.offset_succ, empty]
      simp only [List.length_nil, List.length_cons]
      omega
    · rw [chars, e.char_of_continuesName _ starts, empty, List.nil_append, List.cons_append, same,
        List.cons_append]

theorem bounded_gap {i : Nat} {rest : List Char} (bounded : Bounded rest) :
    Bounded (e.gap i ++ e.chars i rest) := by
  cases before : e.gap i with
  | cons x blanks =>
    have blank : Token.isBlank x = true := e.gap_blank i x (by simp [before])
    exact bounded_cons (Token.not_continuesName_of_isBlank blank) _
  | nil =>
    cases rest with
    | nil => exact bounded
    | cons c rest => exact bounded_cons ((e.char_class i c).2.2.trans (bounded c rfl)) _

theorem sight_cursor {c : Cursor} (stands : c.StandsIn text) :
    (e.cursor c).sight = c.sight.map e.cursor := by
  cases seen : c.sight with
  | finish =>
    have ended := sight_eq_finish_iff.mp seen
    apply sight_eq_finish_iff.mpr
    simp [cursor, ended, chars]
  | invalid =>
    obtain ⟨first, rest, here, plain, unread⟩ := sight_eq_invalid_iff.mp seen
    apply sight_eq_invalid_iff.mpr
    refine ⟨e.char c.offset first, _, by rw [cursor, here, chars], ?_, ?_⟩
    · exact (e.char_class c.offset first).2.1.trans plain
    · exact (e.ofChar?_char c.offset first).trans unread
  | token t after =>
    rcases sight_eq_token seen with
      ⟨first, word, rest, here, starts, continues, bounded, rfl, rfl⟩ |
        ⟨first, rest, here, written, rfl⟩
    · obtain ⟨before, parts, count⟩ := stands.passed
      rw [here] at parts
      obtain ⟨place, same⟩ :=
        e.chars_word parts (Token.continuesName_of_startsName starts) continues
      rw [← count] at place same
      rw [cursor, here, same, sight_name starts continues (e.bounded_gap bounded), Sight.map,
        ← skipBlanks_cursor, ← Nat.add_assoc, ← place, skipBlanks_gap]
      rfl
    · have writtenThere := (e.ofChar?_char c.offset first).trans written
      rw [cursor, here, chars, sight_mark writtenThere, skipBlanks_gap, Sight.map,
        ← skipBlanks_cursor]
      rfl

def relocation : Relocation text where
  cursor := e.cursor
  offset := e.offset
  offset_cursor _ := rfl
  sight_cursor := e.sight_cursor

/-- Spelling and spacing do not matter. The edited text is read as the same sequent, or it is
refused with the same complaint, moved by the blanks that were put in up to its place. -/
theorem parse_result :
    Sequent.parse e.result =
      (Sequent.parse text).mapError fun err =>
        ⟨err.complaint, err.position + e.inserted err.position⟩ := by
  have same := e.relocation.readSequent_cursor (standsIn_ofString text)
  rw [Sequent.parse, e.ofString_result]
  exact congrArg Prod.fst same

theorem parse_result_spaced :
    ∃ e : Edit "p∧", e.result = "\tp & " ∧
      Sequent.parse e.result = .error ⟨.expectedMore, 5⟩ := by
  let e : Edit "p∧" :=
    { respells := fun i => i == 1
      gap := fun i => if i = 0 then ['\t'] else if i ≤ 2 then [' '] else []
      gap_blank := by
        intro i x member
        split_ifs at member <;> simp_all [Token.isBlank]
      gap_apart := by
        intro i x y _ second _ continues
        cases i with
        | zero =>
          obtain rfl : '∧' = y := by simpa using second
          cases continues
        | succ i => simp at second }
  have refused : Sequent.parse "p∧" = .error ⟨.expectedMore, 2⟩ := by decide +kernel
  refine ⟨e, by decide, ?_⟩
  rw [e.parse_result, refused]
  rfl

end Edit

end Turnstile

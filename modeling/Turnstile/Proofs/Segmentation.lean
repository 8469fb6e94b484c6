import Turnstile.Proofs.Session

/-! How a text is cut into tokens. A segmentation accounts for every character of a text: runs of
blanks, the raw tokens between them, and what is left where no further token starts. It is a matter
of the characters alone, and every text has exactly one. What a cursor lexes are the raw tokens of
this segmentation, in canonical spelling and at the places where they stand. -/
namespace Turnstile

namespace Grammar

def isLetter (c : Char) : Bool :=
  ('A' ≤ c && c ≤ 'Z') || ('a' ≤ c && c ≤ 'z')

def isLetterOrDigit (c : Char) : Bool :=
  isLetter c || ('0' ≤ c && c ≤ '9')

/-- The characters that are tokens on their own. -/
def marks : List Char :=
  [',', '(', ')', '∅', '¬', '∧', '∨', '⊦', '!', '&', '|', '>']

/-- The marks that stand for another one. -/
def aliases : List (Char × Char) :=
  [('!', '¬'), ('&', '∧'), ('|', '∨'), ('>', '⊦')]

def canonical (c : Char) : Char :=
  (aliases.lookup c).getD c

/-- Whether a token can start with a character. -/
def startsToken (c : Char) : Bool :=
  isLetter c || marks.contains c

/-- A run of blanks, and the raw token behind it. -/
structure Piece where
  gap : List Char
  raw : List Char
  deriving DecidableEq, Repr

def Piece.chars (p : Piece) : List Char :=
  p.gap ++ p.raw

/-- The token, with every alias replaced. -/
def Piece.text (p : Piece) : String :=
  String.ofList (p.raw.map canonical)

/-- Pieces, the blanks behind the last of them, and what follows. -/
structure Segmentation where
  pieces : List Piece
  gap : List Char
  rest : List Char
  deriving DecidableEq, Repr

namespace Segmentation

/-- All characters up to where no further token starts. -/
def read (s : Segmentation) : List Char :=
  s.pieces.flatMap Piece.chars ++ s.gap

/-- The tokens of pieces with their offsets, where the first piece has a given one. -/
def tokensFrom (offset : Nat) : List Piece → List (String × Nat)
  | [] => []
  | p :: pieces => (p.text, offset + p.gap.length) :: tokensFrom (offset + p.chars.length) pieces

def tokens (s : Segmentation) : List (String × Nat) :=
  tokensFrom 0 s.pieces

end Segmentation

def Blank (chars : List Char) : Prop :=
  ∀ c ∈ chars, c = ' ' ∨ c = '\t'

/-- A raw token and what follows it: a name, which goes on as long as letters and digits do, or a
mark. -/
inductive Raw : List Char → List Char → Prop where
  | name {first : Char} {word rest : List Char} :
      isLetter first = true → (∀ c ∈ word, isLetterOrDigit c = true) →
        (∀ c, rest.head? = some c → isLetterOrDigit c = false) → Raw (first :: word) rest
  | mark {c : Char} {rest : List Char} : c ∈ marks → Raw [c] rest

/-- Characters that start with neither a blank nor a token. -/
def Stuck (chars : List Char) : Prop :=
  ∀ c, chars.head? = some c → c ≠ ' ' ∧ c ≠ '\t' ∧ startsToken c = false

/-- The characters that a segmentation is one of. -/
inductive Segments : List Char → Segmentation → Prop where
  | stop {gap rest : List Char} : Blank gap → Stuck rest → Segments (gap ++ rest) ⟨[], gap, rest⟩
  | piece {p : Piece} {chars last rest : List Char} {pieces : List Piece} :
      Blank p.gap → Raw p.raw chars → Segments chars ⟨pieces, last, rest⟩ →
        Segments (p.chars ++ chars) ⟨p :: pieces, last, rest⟩

/-! The classes of characters are those that a cursor goes by. -/

theorem isLetter_eq (c : Char) : isLetter c = Token.startsName c := by
  have upper : (decide ('A' ≤ c) && decide (c ≤ 'Z')) = c.isUpper := (Bool.decide_and _ _).symm
  have lower : (decide ('a' ≤ c) && decide (c ≤ 'z')) = c.isLower := rfl
  rw [isLetter, upper, lower]
  rfl

theorem isLetterOrDigit_eq (c : Char) : isLetterOrDigit c = Token.continuesName c := by
  rw [isLetterOrDigit, isLetter_eq]
  rfl

theorem isBlank_iff {c : Char} : Token.isBlank c = true ↔ c = ' ' ∨ c = '\t' := by
  simp [Token.isBlank]

theorem blank_iff {chars : List Char} : Blank chars ↔ ∀ c ∈ chars, Token.isBlank c = true := by
  simp only [Blank, isBlank_iff]

theorem ofChar?_of_mem_marks {c : Char} (mark : c ∈ marks) :
    ∃ t, Token.ofChar? c = some t ∧ t.text = String.ofList [canonical c] := by
  simp only [marks, List.mem_cons, List.not_mem_nil, or_false] at mark
  rcases mark with rfl | rfl | rfl | rfl | rfl | rfl | rfl | rfl | rfl | rfl | rfl | rfl <;>
    exact ⟨_, rfl, by decide⟩

theorem mem_marks_of_ofChar? {c : Char} {t : Token} (written : Token.ofChar? c = some t) :
    c ∈ marks := by
  unfold Token.ofChar? at written
  split at written
  · decide
  · decide
  · decide
  · obtain ⟨g, found, _⟩ := Option.map_eq_some_iff.mp written
    have hit := List.find?_some found
    cases g <;> simp [Glyph.char, Glyph.alias?] at hit
    case empty => subst hit; decide
    all_goals rcases hit with rfl | rfl <;> decide

theorem startsToken_eq_false_iff {c : Char} :
    startsToken c = false ↔ Token.startsName c = false ∧ Token.ofChar? c = none := by
  simp only [startsToken, Bool.or_eq_false_iff, isLetter_eq, List.contains_eq_mem,
    decide_eq_false_iff_not]
  refine and_congr_right fun _ => ?_
  constructor
  · intro unmarked
    cases written : Token.ofChar? c with
    | none => rfl
    | some t => exact (unmarked (mem_marks_of_ofChar? written)).elim
  · intro unread mark
    obtain ⟨t, written, _⟩ := ofChar?_of_mem_marks mark
    cases unread.symm.trans written

/-- No alias is a letter or a digit, so a name is its own canonical spelling. -/
theorem canonical_of_isLetterOrDigit {c : Char} (continues : isLetterOrDigit c = true) :
    canonical c = c := by
  have other {a : Char} (apart : isLetterOrDigit a = false) : (c == a) = false := by
    refine beq_eq_false_iff_ne.mpr ?_
    rintro rfl
    cases continues.symm.trans apart
  have unlisted : aliases.lookup c = none := by
    simp [aliases, List.lookup_cons, other (a := '!') rfl, other (a := '&') rfl,
      other (a := '|') rfl, other (a := '>') rfl]
  rw [canonical, unlisted, Option.getD_none]

/-! A raw token is known from its characters and those that follow. -/

theorem Raw.exists_cons {raw rest : List Char} (token : Raw raw rest) :
    ∃ c more, raw = c :: more ∧ startsToken c = true := by
  cases token with
  | @name first word rest letter => exact ⟨first, word, rfl, by simp [startsToken, letter]⟩
  | @mark c rest mark => exact ⟨c, [], rfl, by simp [startsToken, mark]⟩

theorem not_isBlank_of_startsToken {c : Char} (starts : startsToken c = true) :
    Token.isBlank c = false := by
  refine Bool.eq_false_iff.mpr fun blank => ?_
  rcases isBlank_iff.mp blank with rfl | rfl <;> cases starts

theorem Raw.visible {raw rest : List Char} (token : Raw raw rest) :
    ∀ c, (raw ++ rest).head? = some c → Token.isBlank c = false := by
  obtain ⟨c, more, rfl, starts⟩ := token.exists_cons
  rintro d ⟨⟩
  exact not_isBlank_of_startsToken starts

theorem Stuck.visible {chars : List Char} (stuck : Stuck chars) :
    ∀ c, chars.head? = some c → Token.isBlank c = false := by
  intro c head
  obtain ⟨space, tab, _⟩ := stuck c head
  refine Bool.eq_false_iff.mpr fun blank => ?_
  exact (isBlank_iff.mp blank).elim space tab

theorem Stuck.ne_raw {chars raw rest : List Char} (stuck : Stuck chars) (token : Raw raw rest) :
    chars ≠ raw ++ rest := by
  obtain ⟨c, more, rfl, starts⟩ := token.exists_cons
  rintro rfl
  obtain ⟨_, _, unable⟩ := stuck c rfl
  cases starts.symm.trans unable

theorem not_isLetter_of_mem_marks {c : Char} (mark : c ∈ marks) : isLetter c = false := by
  obtain ⟨t, written, _⟩ := ofChar?_of_mem_marks mark
  rw [isLetter_eq, (Token.ofChar?_eq_some written).2.1]

/-- Blanks are told from what follows them. -/
theorem Blank.append_inj {gap rest other more : List Char} (first : Blank gap)
    (behind : ∀ c, rest.head? = some c → Token.isBlank c = false) (second : Blank other)
    (beyond : ∀ c, more.head? = some c → Token.isBlank c = false)
    (same : gap ++ rest = other ++ more) : gap = other ∧ rest = more :=
  Text.run_inj Token.isBlank (blank_iff.mp first) behind (blank_iff.mp second) beyond same

/-- Of two raw tokens at the same place none is longer than the other. -/
theorem Raw.append_inj {raw rest other more : List Char} (first : Raw raw rest)
    (second : Raw other more) (same : raw ++ rest = other ++ more) : raw = other ∧ rest = more := by
  cases first with
  | name letter continues bounded =>
    cases second with
    | name letter' continues' bounded' =>
      obtain ⟨rfl, tails⟩ := List.cons.inj same
      obtain ⟨rfl, rfl⟩ := Text.run_inj isLetterOrDigit continues bounded continues' bounded' tails
      exact ⟨rfl, rfl⟩
    | mark mark =>
      obtain ⟨rfl, _⟩ := List.cons.inj same
      cases letter.symm.trans (not_isLetter_of_mem_marks mark)
  | mark mark =>
    cases second with
    | name letter =>
      obtain ⟨rfl, _⟩ := List.cons.inj same
      cases letter.symm.trans (not_isLetter_of_mem_marks mark)
    | mark =>
      cases same
      exact ⟨rfl, rfl⟩

namespace Segments

variable {chars : List Char} {s other : Segmentation}

theorem eq_append (segments : Segments chars s) : chars = s.read ++ s.rest := by
  induction segments with
  | stop => simp [Segmentation.read]
  | piece _ _ _ ih =>
    rw [ih]
    simp [Segmentation.read]

theorem stuck (segments : Segments chars s) : Stuck s.rest := by
  induction segments with
  | stop _ stuck => exact stuck
  | piece _ _ _ ih => exact ih

theorem offset_le_of_mem_tokensFrom {offset : Nat} {pieces : List Piece} {t : String × Nat}
    (member : t ∈ Segmentation.tokensFrom offset pieces) : offset ≤ t.2 := by
  induction pieces generalizing offset with
  | nil => cases member
  | cons p pieces ih =>
    rcases List.mem_cons.mp member with rfl | later
    · exact Nat.le_add_right _ _
    · exact Nat.le_trans (Nat.le_add_right _ _) (ih later)

/-- No raw token is empty, so each stands further on than the one before it. -/
theorem increasing (segments : Segments chars s) (offset : Nat) :
    ((Segmentation.tokensFrom offset s.pieces).map Prod.snd).Pairwise (· < ·) := by
  induction segments generalizing offset with
  | stop => exact .nil
  | @piece p chars last rest pieces _ token _ ih =>
    rw [Segmentation.tokensFrom, List.map_cons]
    refine .cons ?_ (ih _)
    intro place member
    obtain ⟨t, later, rfl⟩ := List.mem_map.mp member
    have bound := offset_le_of_mem_tokensFrom later
    obtain ⟨c, more, same, _⟩ := token.exists_cons
    simp only [Piece.chars, same, List.length_append, List.length_cons] at bound
    omega

/-- The first blanks are the same, the token behind them is the same if there is one, and the rest
is cut up in the same way. -/
theorem unique (first : Segments chars s) (second : Segments chars other) : s = other := by
  induction first generalizing other with
  | @stop gap rest gapBlank stuck =>
    generalize whole : gap ++ rest = chars at second
    cases second with
    | stop gapBlank' stuck' =>
      obtain ⟨rfl, rfl⟩ := gapBlank.append_inj stuck.visible gapBlank' stuck'.visible whole
      rfl
    | @piece p chars last rest pieces gapBlank' token =>
      rw [Piece.chars, List.append_assoc] at whole
      obtain ⟨_, same⟩ := gapBlank.append_inj stuck.visible gapBlank' token.visible whole
      exact (stuck.ne_raw token same).elim
  | @piece p chars last rest pieces gapBlank token _ ih =>
    generalize whole : p.chars ++ chars = all at second
    rw [Piece.chars, List.append_assoc] at whole
    cases second with
    | stop gapBlank' stuck =>
      obtain ⟨_, same⟩ := gapBlank.append_inj token.visible gapBlank' stuck.visible whole
      exact (stuck.ne_raw token same.symm).elim
    | @piece p' chars' last' rest' pieces' gapBlank' token' segments' =>
      rw [Piece.chars, List.append_assoc] at whole
      obtain ⟨gaps, same⟩ := gapBlank.append_inj token.visible gapBlank' token'.visible whole
      obtain ⟨raws, rfl⟩ := token.append_inj token' same
      cases ih segments'
      obtain ⟨gap, raw⟩ := p
      obtain ⟨gap', raw'⟩ := p'
      cases gaps
      cases raws
      rfl

end Segments

end Grammar

namespace Cursor

open Grammar

/-- Where a cursor goes on after blanks. -/
theorem exists_skipBlanks (offset : Nat) (chars : List Char) :
    ∃ gap rest, Blank gap ∧ chars = gap ++ rest ∧
      (∀ x, rest.head? = some x → Token.isBlank x = false) ∧
      skipBlanks ⟨offset, chars⟩ = ⟨offset + gap.length, rest⟩ := by
  refine ⟨chars.takeWhile Token.isBlank, chars.dropWhile Token.isBlank, ?_, ?_, ?_, rfl⟩
  · exact blank_iff.mpr fun c member => List.all_eq_true.mp List.all_takeWhile c member
  · exact List.takeWhile_append_dropWhile.symm
  · intro x head
    have stops := List.head?_dropWhile_not Token.isBlank chars
    simpa [head] using stops

theorem stuck_of_sight {c : Cursor} (seen : c.sight = .invalid)
    (visible : ∀ x, c.rest.head? = some x → Token.isBlank x = false) : Stuck c.rest := by
  obtain ⟨first, rest, chars, unnamed, unread⟩ := sight_eq_invalid_iff.mp seen
  rw [chars] at visible ⊢
  rintro x ⟨⟩
  have shown : ¬(first = ' ' ∨ first = '\t') := by
    rw [← isBlank_iff, visible first rfl]
    simp
  exact ⟨fun space => shown (.inl space), fun tab => shown (.inr tab),
    startsToken_eq_false_iff.mpr ⟨unnamed, unread⟩⟩

/-- What a cursor sees is a raw token, and it goes on right behind it. -/
theorem raw_of_sight {c after : Cursor} {t : Token} (seen : c.sight = .token t after) :
    ∃ raw rest, c.rest = raw ++ rest ∧ Raw raw rest ∧ t.text = String.ofList (raw.map canonical) ∧
      after = skipBlanks ⟨c.offset + raw.length, rest⟩ := by
  rcases sight_eq_token seen with
    ⟨first, word, rest, chars, starts, continues, bounded, rfl, rfl⟩ |
      ⟨first, rest, chars, written, rfl⟩
  · have named : (first :: word).map canonical = first :: word := by
      refine (List.map_congr_left fun c member => ?_).trans (List.map_id _)
      apply canonical_of_isLetterOrDigit
      rcases List.mem_cons.mp member with rfl | inside
      · simp [isLetterOrDigit, isLetter_eq, starts]
      · rw [isLetterOrDigit_eq, continues c inside]
    refine ⟨first :: word, rest, chars, .name ?_ ?_ ?_, ?_, rfl⟩
    · rw [isLetter_eq, starts]
    · exact fun c inside => (isLetterOrDigit_eq c).trans (continues c inside)
    · exact fun c head => (isLetterOrDigit_eq c).trans (bounded c head)
    · rw [named]
      rfl
  · have mark := mem_marks_of_ofChar? written
    obtain ⟨u, same, text⟩ := ofChar?_of_mem_marks mark
    cases written.symm.trans same
    exact ⟨[first], rest, chars, .mark mark, text, rfl⟩

/-- The segmentation of what a cursor sees, with blanks in front of it. -/
theorem exists_segments (c : Cursor)
    (visible : ∀ x, c.rest.head? = some x → Token.isBlank x = false) {offset : Nat}
    {gap : List Char} (blank : Blank gap) (count : c.offset = offset + gap.length) :
    ∃ s, Segments (gap ++ c.rest) s ∧
      c.lex.tokens.map (fun t => (t.1.text, t.2)) = Segmentation.tokensFrom offset s.pieces ∧
      c.lex.stop = offset + s.read.length ∧ c.lex.complete = s.rest.isEmpty := by
  fun_induction lex c generalizing offset gap with
  | case1 c seen =>
    have finished := sight_eq_finish_iff.mp seen
    refine ⟨⟨[], gap, []⟩, ?_, rfl, ?_, rfl⟩
    · rw [finished]
      exact .stop blank (by simp [Stuck])
    · simpa [Segmentation.read] using count
  | case2 c seen =>
    refine ⟨⟨[], gap, c.rest⟩, .stop blank (stuck_of_sight seen visible), rfl, ?_, ?_⟩
    · simpa [Segmentation.read] using count
    · obtain ⟨first, rest, chars, _⟩ := sight_eq_invalid_iff.mp seen
      simp [chars]
  | case3 c t after seen tail ih =>
    obtain ⟨raw, rest, chars, token, text, rfl⟩ := raw_of_sight seen
    -- The blanks behind the token are the gap of what comes next.
    obtain ⟨between, rest', blank', rfl, visible', arrived⟩ :=
      exists_skipBlanks (c.offset + raw.length) rest
    rw [arrived] at ih
    obtain ⟨s, segments, tokens, stop, complete⟩ := ih visible' blank' rfl
    rw [← arrived] at tokens stop complete
    have behind : c.offset + raw.length = offset + (Piece.mk gap raw).chars.length := by
      simp only [Piece.chars, List.length_append]
      omega
    refine ⟨⟨⟨gap, raw⟩ :: s.pieces, s.gap, s.rest⟩, ?_, ?_, ?_, complete⟩
    · rw [chars, ← List.append_assoc]
      exact .piece (p := ⟨gap, raw⟩) blank token segments
    · rw [List.map_cons, tokens, Segmentation.tokensFrom, ← behind, ← count, text]
      rfl
    · rw [stop, behind]
      simp only [Segmentation.read, List.flatMap_cons, List.length_append]
      omega

/-- Lexing loses nothing and takes as much as it can. A text has exactly one segmentation. Its raw
tokens, with the aliases replaced, are the tokens that a cursor yields, and stand where it says that
they do, one behind the other. Either they and the blanks are the whole text, or the cursor
complains of the character behind them, which is no blank and starts no token. -/
theorem lex_lossless (text : String) :
    ∃ s : Segmentation, Segments text.toList s ∧
      (∀ other, Segments text.toList other → other = s) ∧
      text.toList = s.read ++ s.rest ∧
      (ofString text).lex.tokens.map (fun t => (t.1.text, t.2)) = s.tokens ∧
      (s.tokens.map Prod.snd).Pairwise (· < ·) ∧
      (ofString text).lex.stop = s.read.length ∧
      (((ofString text).perform .drain).1 = .ok (s.tokens.map Prod.fst) ∧ s.rest = [] ∧
          s.read.length = text.length ∨
        ∃ e : SyntaxError, ((ofString text).perform .drain).1 = .error (.complaint e) ∧
          e.complaint.message = "Invalid symbol" ∧ e.position = s.read.length ∧
          ∃ c, text.toList[e.position]? = some c ∧ c ≠ ' ' ∧ c ≠ '\t' ∧ startsToken c = false) := by
  obtain ⟨gap, rest, blank, parts, visible, arrived⟩ := exists_skipBlanks 0 text.toList
  obtain ⟨s, segments, tokens, stop, complete⟩ :=
    exists_segments ⟨0 + gap.length, rest⟩ visible blank rfl
  change ofString text = _ at arrived
  rw [← arrived] at tokens stop complete
  rw [Nat.zero_add] at stop
  have whole : Segments text.toList s := parts ▸ segments
  have split := whole.eq_append
  have texts : (ofString text).lex.plain.map Token.text = s.tokens.map Prod.fst := by
    rw [Segmentation.tokens, ← tokens]
    simp only [Lexing.plain, List.map_map]
    rfl
  refine ⟨s, whole, fun other second => second.unique whole, split, tokens, whole.increasing 0,
    stop, ?_⟩
  rw [perform_drain, texts]
  cases ahead : s.rest with
  | nil =>
    have finished : (ofString text).lex.complete = true := by rw [complete, ahead]; rfl
    refine .inl ⟨if_pos finished, rfl, ?_⟩
    rw [← String.length_toList, split, ahead, List.append_nil]
  | cons c more =>
    have unfinished : (ofString text).lex.complete = false := by rw [complete, ahead]; rfl
    refine .inr ⟨⟨.invalidSymbol, (ofString text).lex.stop⟩, by simp [unfinished], rfl, stop, c, ?_,
      whole.stuck c (by rw [ahead]; rfl)⟩
    change text.toList[(ofString text).lex.stop]? = some c
    rw [stop, split, ahead]
    simp

-- A digit goes on with a name but starts none.
example : (ofString "\tA1&9").lex = ⟨[(.name "A1", 1), (.glyph .conj, 3)], 4, false⟩ := by
  decide +kernel

end Cursor

end Turnstile

import Turnstile.Yaml.Quoted

/-! Plain scalars, which have no marks around them. They may go on over several lines, as long
as these are indented. -/
namespace Turnstile.Yaml

/-- Whether a character has a meaning of its own between brackets. -/
def isFlowMark (c : Char) : Bool :=
  c == ',' || c == '[' || c == ']' || c == '\x7b' || c == '\x7d'

/-- Whether a colon before these characters ends a key. -/
def endsKey (bracketed : Bool) (rest : List Char) : Bool :=
  endsWord rest.head? || (bracketed && rest.head?.any isFlowMark)

/-- The length of the word that a plain scalar starts with. -/
def wordLength (bracketed : Bool) : List Char → Nat
  | [] => 0
  | c :: rest =>
    if endsWord (some c) || (c == ':' && endsKey bracketed rest) ||
        (bracketed && (isFlowMark c || c == '?')) then 0
    else wordLength bracketed rest + 1

theorem rest_ne_nil_of_word {bracketed : Bool} {rest : List Char}
    (word : wordLength bracketed rest ≠ 0) : rest ≠ [] := by
  rintro rfl
  exact word rfl

/-- Characters with a meaning of their own at the start of something. -/
def indicators : List Char :=
  ['-', '?', ':', '#', '&', '*', '!', '|', '>', '\'', '"', '%', '@', '`']

/-- Whether a plain scalar can start with these characters. -/
def startsPlain (bracketed : Bool) : List Char → Bool
  | [] => false
  | c :: rest =>
    !(endsWord (some c) || isFlowMark c || indicators.contains c) ||
      (!endsWord rest.head? && (c == '-' || (!bracketed && (c == '?' || c == ':'))))

/-- Passes blanks and empty lines. Nothing is read at a line that ends the document. -/
def plainLines (breaks : List Char) (p : Point) : Option (List Char) × Point :=
  match _found : (p.pass (· == ' ')).lineBreak? with
  | none => (some breaks.reverse, p.pass (· == ' '))
  | some (c, r) => if r.atMarker then (none, r) else plainLines (c :: breaks) r
termination_by p.rest.length
decreasing_by exact Point.lineBreak?_pass_length _found

theorem plainLines_length_le (breaks : List Char) (p : Point) :
    (plainLines breaks p).2.rest.length ≤ p.rest.length := by
  fun_induction plainLines breaks p with
  | case1 breaks p _ => exact Point.pass_length_le p _
  | case2 breaks p c r found _ => exact Nat.le_of_lt (Point.lineBreak?_pass_length found)
  | case3 breaks p c r found _ ih =>
    exact Nat.le_trans ih (Nat.le_of_lt (Point.lineBreak?_pass_length found))

/-- What stands between two words of a plain scalar: the text it is read as, which is missing
where the scalar must end, and whether a line ended. -/
structure Gap where
  text : Option (List Char)
  lineEnded : Bool
  behind : Point

def plainGap (p : Point) : Gap :=
  let q := p.pass (· == ' ')
  match q.lineBreak? with
  | none => ⟨some (p.taken (· == ' ')), false, q⟩
  | some (c, r) =>
    if r.atMarker then ⟨none, true, r⟩
    else
      match plainLines [] r with
      | (none, s) => ⟨none, true, s⟩
      | (some others, s) => ⟨some (folded c others), true, s⟩

theorem plainGap_length_le (p : Point) : (plainGap p).behind.rest.length ≤ p.rest.length := by
  unfold plainGap
  dsimp only
  split
  · exact Point.pass_length_le p _
  · rename_i c r found
    have shorter := Nat.le_of_lt (Point.lineBreak?_pass_length found)
    split
    · exact shorter
    · split
      all_goals
        rename_i lines
        have bound := plainLines_length_le [] r
        rw [lines] at bound
        exact Nat.le_trans bound shorter

/-- A plain scalar, with what follows it, and whether it ends at the start of a line. -/
structure Plain where
  text : List Char
  behind : Point
  lineEnded : Bool

/-- What stands behind the word that comes next. -/
def gapBehindWord (bracketed : Bool) (p : Point) : Gap :=
  plainGap (p.advance (wordLength bracketed p.rest))

theorem gapBehindWord_length {bracketed : Bool} {p : Point}
    (word : wordLength bracketed p.rest ≠ 0) :
    (gapBehindWord bracketed p).behind.rest.length < p.rest.length :=
  Nat.lt_of_le_of_lt (plainGap_length_le _)
    (Point.advance_length (rest_ne_nil_of_word word) (Nat.pos_of_ne_zero word))

/-- The text of a gap behind which a plain scalar goes on. Its later lines start at a column at
least. -/
def Gap.joint? (bracketed : Bool) (column : Nat) (g : Gap) : Option (List Char) :=
  g.text.filter fun text =>
    !(text.isEmpty || g.behind.nextIs '#' || (!bracketed && g.behind.column < column))

/-- Reads a plain scalar whose later lines start at a column at least, given its text so far in
reverse and what stands before its next word. -/
def plain (bracketed : Bool) (column : Nat) (done between : List Char) (lineEnded : Bool)
    (p : Point) : Plain :=
  if _none : wordLength bracketed p.rest = 0 ∨ p.nextIs '#' then ⟨done.reverse, p, lineEnded⟩
  else
    let word := p.rest.take (wordLength bracketed p.rest)
    let done := word.reverse ++ (between.reverse ++ done)
    let gap := gapBehindWord bracketed p
    match gap.joint? bracketed column with
    | none => ⟨done.reverse, gap.behind, gap.lineEnded⟩
    | some text => plain bracketed column done text gap.lineEnded gap.behind
termination_by p.rest.length
decreasing_by exact gapBehindWord_length fun absent => _none (Or.inl absent)

theorem wordLength_pos {bracketed : Bool} {rest : List Char}
    (plain : startsPlain bracketed rest) : 0 < wordLength bracketed rest := by
  cases rest with
  | nil => cases plain
  | cons c rest =>
    unfold wordLength
    split
    · rename_i stops
      simp only [startsPlain, Bool.or_eq_true, Bool.and_eq_true, Bool.not_eq_true',
        Bool.or_eq_false_iff, beq_iff_eq] at plain stops
      rcases plain with ⟨⟨word, mark⟩, indicator⟩ | ⟨follows, rfl | ⟨unbracketed, rfl | rfl⟩⟩
      · have colon : c ≠ ':' := by
          rintro rfl
          exact absurd indicator (by decide)
        have question : c ≠ '?' := by
          rintro rfl
          exact absurd indicator (by decide)
        simp [word, mark, colon, question] at stops
      · simp [endsWord, isGap, isBreak, isFlowMark] at stops
      · simp [unbracketed, endsWord, isGap, isBreak] at stops
      · simp [unbracketed, endsKey, follows] at stops
        exact absurd stops (by decide)
    · exact Nat.succ_pos _

theorem not_nextIs_of_startsPlain {bracketed : Bool} {p : Point}
    (starts : startsPlain bracketed p.rest) : ¬p.nextIs '#' := by
  intro comment
  unfold Point.nextIs Point.next? at comment
  cases following : p.rest with
  | nil => simp [following] at comment
  | cons c rest =>
    have same : c = '#' := by simpa [following] using comment
    subst same
    rw [following] at starts
    simp [startsPlain, indicators] at starts

theorem plain_length_le (bracketed : Bool) (column : Nat) (done between : List Char)
    (lineEnded : Bool) (p : Point) :
    (plain bracketed column done between lineEnded p).behind.rest.length ≤ p.rest.length := by
  rw [plain]
  split
  · exact Nat.le_refl _
  · rename_i word
    have shorter := gapBehindWord_length fun absent => word (Or.inl absent)
    dsimp only
    split
    · exact Nat.le_of_lt shorter
    · exact Nat.le_trans (plain_length_le _ _ _ _ _ _) (Nat.le_of_lt shorter)
termination_by p.rest.length

theorem plain_length {bracketed : Bool} {p : Point} (starts : startsPlain bracketed p.rest)
    (column : Nat) :
    (plain bracketed column [] [] false p).behind.rest.length < p.rest.length := by
  have word := Nat.ne_of_gt (wordLength_pos starts)
  have comment : ¬p.nextIs '#' := not_nextIs_of_startsPlain starts
  rw [plain, dif_neg (not_or.mpr ⟨word, comment⟩)]
  dsimp only
  split
  · exact gapBehindWord_length word
  · exact Nat.lt_of_le_of_lt (plain_length_le _ _ _ _ _ _) (gapBehindWord_length word)

end Turnstile.Yaml

import Turnstile.Yaml.Value

/-! Positions in a YAML text, with the characters that follow them. -/
namespace Turnstile.Yaml

theorem exists_of_map_eq_ok {α β : Type} {f : α → β} {r : Except ReadError α} {b : β}
    (mapped : r.map f = .ok b) : ∃ a, r = .ok a ∧ f a = b := by
  cases r with
  | error e => cases mapped
  | ok a => exact ⟨a, rfl, Except.ok.inj mapped⟩

def isBreak (c : Char) : Bool :=
  c == '\n' || c == '\x85' || c == '\u2028' || c == '\u2029'

/-- Blanks and tabs, which may stand between the words of a text. -/
def isGap (c : Char) : Bool :=
  c == ' ' || c == '\t'

/-- Whether nothing, a gap or a line break comes next. -/
def endsWord : Option Char → Bool
  | some c => isGap c || isBreak c
  | none => true

/-- Whether nothing or a line break comes next. -/
def endsLine : Option Char → Bool
  | some c => isBreak c
  | none => true

structure Point where
  rest : List Char
  index : Nat
  line : Nat
  column : Nat

namespace Point

def start (text : List Char) : Point :=
  ⟨text, 0, 0, 0⟩

def next? (p : Point) : Option Char :=
  p.rest.head?

def nextIs (p : Point) (c : Char) : Bool :=
  p.next? == some c

/-- The position behind the next character. A mark of the byte order takes no column. -/
def forward (p : Point) : Point :=
  match p.rest with
  | [] => p
  | c :: rest =>
    if isBreak c then ⟨rest, p.index + 1, p.line + 1, 0⟩
    else if c == '\ufeff' then ⟨rest, p.index + 1, p.line, p.column⟩
    else ⟨rest, p.index + 1, p.line, p.column + 1⟩

def advance (p : Point) : Nat → Point
  | 0 => p
  | n + 1 => p.forward.advance n

theorem forward_rest (p : Point) : p.forward.rest = p.rest.tail := by
  unfold forward
  split
  · rename_i nothing
    rw [nothing, List.tail_nil]
  · rename_i following
    rw [following, List.tail_cons]
    split
    · rfl
    · split <;> rfl

theorem advance_rest (p : Point) (n : Nat) : (p.advance n).rest = p.rest.drop n := by
  induction n generalizing p with
  | zero => rfl
  | succ n ih => rw [advance, ih, forward_rest, List.drop_tail]

theorem forward_length {p : Point} (nonempty : p.rest ≠ []) :
    p.forward.rest.length < p.rest.length := by
  have := List.length_pos_iff.mpr nonempty
  rw [forward_rest, List.length_tail]
  omega

theorem advance_length {p : Point} {n : Nat} (nonempty : p.rest ≠ []) (positive : 0 < n) :
    (p.advance n).rest.length < p.rest.length := by
  have := List.length_pos_iff.mpr nonempty
  rw [advance_rest, List.length_drop]
  omega

/-- The position behind all characters of a kind that come next. -/
def pass (p : Point) (kind : Char → Bool) : Point :=
  p.advance (p.rest.takeWhile kind).length

theorem forward_length_le (p : Point) : p.forward.rest.length ≤ p.rest.length := by
  rw [forward_rest, List.length_tail]
  exact Nat.sub_le _ _

theorem advance_length_le (p : Point) (n : Nat) :
    (p.advance n).rest.length ≤ p.rest.length := by
  rw [advance_rest, List.length_drop]
  exact Nat.sub_le _ _

theorem pass_length_le (p : Point) (kind : Char → Bool) :
    (p.pass kind).rest.length ≤ p.rest.length := by
  exact advance_length_le p _

/-- The characters of a kind that come next. -/
def taken (p : Point) (kind : Char → Bool) : List Char :=
  p.rest.takeWhile kind

/-- Passes a line break and tells what it is read as: a line feed, unless it separates lines or
paragraphs. -/
def lineBreak? (p : Point) : Option (Char × Point) :=
  match p.rest with
  | [] => none
  | c :: _ =>
    if c == '\n' || c == '\x85' then some ('\n', p.forward)
    else if isBreak c then some (c, p.forward)
    else none

theorem lineBreak?_length {p q : Point} {c : Char} (found : p.lineBreak? = some (c, q)) :
    q.rest.length < p.rest.length := by
  unfold lineBreak? at found
  split at found
  · cases found
  · rename_i following
    have nonempty : p.rest ≠ [] := by
      rw [following]
      exact List.cons_ne_nil _ _
    split at found
    · cases found
      exact forward_length nonempty
    · split at found
      · cases found
        exact forward_length nonempty
      · cases found

theorem lineBreak?_ne_none {p : Point} {c : Char} {rest : List Char}
    (following : p.rest = c :: rest) (breaks : isBreak c) : p.lineBreak? ≠ none := by
  rw [lineBreak?, following]
  dsimp only
  rw [if_pos breaks]
  split <;> exact Option.some_ne_none _

theorem lineBreak?_pass_length {p q : Point} {kind : Char → Bool} {c : Char}
    (found : (p.pass kind).lineBreak? = some (c, q)) : q.rest.length < p.rest.length :=
  Nat.lt_of_lt_of_le (lineBreak?_length found) (pass_length_le p kind)

/-- Passes what is left of a line, and tells what its end is read as, if it has one. -/
def passLine (p : Point) : List Char × Point :=
  let q := p.pass fun c => !isBreak c
  match q.lineBreak? with
  | some (c, r) => ([c], r)
  | none => ([], q)

theorem passLine_length {p : Point} (nonempty : p.rest ≠ []) :
    p.passLine.2.rest.length < p.rest.length := by
  unfold passLine
  dsimp only
  split
  · rename_i found
    exact lineBreak?_pass_length found
  · rename_i unbroken
    obtain ⟨c, rest, following⟩ := List.exists_cons_of_ne_nil nonempty
    by_cases breaks : isBreak c
    · have passed : (p.pass fun c => !isBreak c) = p := by
        rw [pass, following, List.takeWhile_cons]
        simp [breaks, advance]
      rw [passed] at unbroken
      exact absurd unbroken (lineBreak?_ne_none following breaks)
    · rw [pass, advance_rest, List.length_drop, following, List.takeWhile_cons,
        if_pos (by simp [breaks])]
      simp only [List.length_cons]
      omega

def starts (p : Point) (word : List Char) : Bool :=
  word.isPrefixOf p.rest

/-- Whether a line that starts or ends a document comes next. -/
def atMarker (p : Point) : Bool :=
  (p.starts ['-', '-', '-'] || p.starts ['.', '.', '.']) && endsWord (p.rest.drop 3).head?

/-- Passes blanks and a comment. -/
def passComment (p : Point) : Point :=
  let q := p.pass (· == ' ')
  if q.nextIs '#' then q.pass fun c => !isBreak c else q

theorem passComment_length_le (p : Point) : p.passComment.rest.length ≤ p.rest.length := by
  have blanks := pass_length_le p (· == ' ')
  unfold passComment
  dsimp only
  split
  · exact Nat.le_trans (pass_length_le _ _) blanks
  · exact blanks

/-- Passes blanks, a comment and the end of the line, if nothing else is on it. -/
def passLineEnd? (p : Point) : Option Point :=
  let q := p.passComment
  if endsLine q.next? then
    match q.lineBreak? with
    | some (_, r) => some r
    | none => some q
  else none

theorem passLineEnd?_length_le {p q : Point} (passed : p.passLineEnd? = some q) :
    q.rest.length ≤ p.rest.length := by
  have comment := passComment_length_le p
  unfold passLineEnd? at passed
  dsimp only at passed
  split at passed
  · split at passed
    · rename_i found
      cases passed
      exact Nat.le_trans (Nat.le_of_lt (lineBreak?_length found)) comment
    · cases passed
      exact comment
  · cases passed

end Point

def codes (chars : List Char) : List Nat :=
  chars.map Char.toNat

end Turnstile.Yaml

import Turnstile.Yaml.Quoted

/-! Block scalars: indented lines behind a mark that tells whether line breaks are kept or
folded, and what happens to those at the end. -/
namespace Turnstile.Yaml

/-- What becomes of the line breaks at the end. -/
inductive Chomping where
  | strip
  | clip
  | keep
  deriving DecidableEq, Repr

structure Header where
  chomping : Chomping
  indentation : Option Nat

def chompingMark? : Option Char → Option Chomping
  | some '+' => some .keep
  | some '-' => some .strip
  | _ => none

def digitMark? : Option Char → Option Nat
  | some c => if c.isDigit then some (c.toNat - 48) else none
  | none => none

/-- The marks of a block scalar, in either order, and how many they are. -/
def marks (p : Point) : Header × Nat :=
  match chompingMark? p.next?, digitMark? p.next? with
  | some chomping, _ =>
    match digitMark? p.forward.next? with
    | some digit => (⟨chomping, some digit⟩, 2)
    | none => (⟨chomping, none⟩, 1)
  | none, some digit =>
    match chompingMark? p.forward.next? with
    | some chomping => (⟨chomping, some digit⟩, 2)
    | none => (⟨.clip, some digit⟩, 1)
  | none, none => (⟨.clip, none⟩, 0)

/-- Reads the marks of a block scalar and the end of their line. -/
def header? (p : Point) : Option (Header × Point) :=
  let found := marks p
  let q := p.advance found.2
  if found.1.indentation = some 0 then none
  else if q.nextIs ' ' || endsLine q.next? then q.passLineEnd?.map fun r => (found.1, r)
  else none

theorem header?_length_le {p q : Point} {header : Header}
    (read : header? p = some (header, q)) : q.rest.length ≤ p.rest.length := by
  unfold header? at read
  dsimp only at read
  split at read
  · cases read
  · split at read
    · obtain ⟨r, passed, same⟩ := Option.map_eq_some_iff.mp read
      cases same
      exact Nat.le_trans (Point.passLineEnd?_length_le passed) (p.advance_length_le _)
    · cases read

/-- Passes up to a number of columns of blanks. -/
def passIndent (column : Nat) (p : Point) : Point :=
  p.advance (min (column - p.column) (p.taken (· == ' ')).length)

theorem passIndent_length_le (column : Nat) (p : Point) :
    (passIndent column p).rest.length ≤ p.rest.length := by
  rw [passIndent, Point.advance_rest, List.length_drop]
  exact Nat.sub_le _ _

/-- Passes empty lines up to one that is indented to a column or has something on it. -/
def blockBreaks (column : Nat) (breaks : List Char) (p : Point) : List Char × Point :=
  match _found : (passIndent column p).lineBreak? with
  | none => (breaks.reverse, passIndent column p)
  | some (c, r) => blockBreaks column (c :: breaks) r
termination_by p.rest.length
decreasing_by
  exact Nat.lt_of_lt_of_le (Point.lineBreak?_length _found) (passIndent_length_le column p)

theorem blockBreaks_length_le (column : Nat) (breaks : List Char) (p : Point) :
    (blockBreaks column breaks p).2.rest.length ≤ p.rest.length := by
  fun_induction blockBreaks column breaks p with
  | case1 breaks p _ => exact passIndent_length_le column p
  | case2 breaks p c r found ih =>
    have shorter := Point.lineBreak?_length found
    have passed := passIndent_length_le column p
    omega

/-- Passes empty lines up to the first line with something on it, and finds the widest
indentation on the way. -/
def findIndent (widest : Nat) (breaks : List Char) (p : Point) : List Char × Nat × Point :=
  let q := p.pass (· == ' ')
  match _found : (p.pass (· == ' ')).lineBreak? with
  | none => (breaks.reverse, max widest q.column, q)
  | some (c, r) => findIndent (max widest q.column) (c :: breaks) r
termination_by p.rest.length
decreasing_by exact Point.lineBreak?_pass_length _found

theorem findIndent_length_le (widest : Nat) (breaks : List Char) (p : Point) :
    (findIndent widest breaks p).2.2.rest.length ≤ p.rest.length := by
  fun_induction findIndent widest breaks p with
  | case1 widest breaks p q _ => exact p.pass_length_le _
  | case2 widest breaks p q c r found ih =>
    exact Nat.le_trans ih (Nat.le_of_lt (Point.lineBreak?_pass_length found))

/-- Whether a line of the block comes next. -/
def atLine (column : Nat) (p : Point) : Bool :=
  p.column = column && !p.rest.isEmpty

/-- Reads the lines of a block, given its text so far in reverse and the empty lines before
the next one. -/
def blockLines (folding : Bool) (chomping : Chomping) (column : Nat) (done breaks : List Char)
    (p : Point) : List Char × Point :=
  if _ended : p.rest = [] ∨ p.column ≠ column then
    ((if chomping = .keep then breaks.reverse ++ done else done).reverse, p)
  else
    let line := p.taken fun c => !isBreak c
    let last := p.passLine.1
    let next := blockBreaks column [] p.passLine.2
    let done := line.reverse ++ (breaks.reverse ++ done)
    if atLine column next.2 then
      let joined :=
        if folding && last = ['\n'] && !line.head?.any isGap && !next.2.next?.any isGap then
          if next.1.isEmpty then [' '] else []
        else last
      blockLines folding chomping column (joined ++ done) next.1 next.2
    else
      let tail := if chomping = .strip then [] else last
      let kept := if chomping = .keep then next.1 else []
      ((kept.reverse ++ (tail ++ done)).reverse, next.2)
termination_by p.rest.length
decreasing_by
  exact Nat.lt_of_le_of_lt (blockBreaks_length_le column [] _)
    (Point.passLine_length fun nothing => _ended (Or.inl nothing))

theorem blockLines_length_le (folding : Bool) (chomping : Chomping) (column : Nat)
    (done breaks : List Char) (p : Point) :
    (blockLines folding chomping column done breaks p).2.rest.length ≤ p.rest.length := by
  rw [blockLines]
  split
  · exact Nat.le_refl _
  · rename_i line
    have shorter := Nat.lt_of_le_of_lt (blockBreaks_length_le column [] p.passLine.2)
      (Point.passLine_length fun nothing => line (Or.inl nothing))
    dsimp only
    split
    · exact Nat.le_trans (blockLines_length_le _ _ _ _ _ _) (Nat.le_of_lt shorter)
    · exact Nat.le_of_lt shorter
termination_by p.rest.length

/-- Reads a block scalar behind its mark. Its lines stand further right than what it belongs
to, which is given by the least column for them. -/
def block (folding : Bool) (least : Nat) (p : Point) : Except ReadError (List Char × Point) :=
  match header? p with
  | none => .error .malformed
  | some (⟨chomping, some extra⟩, q) =>
    let column := least + extra - 1
    let first := blockBreaks column [] q
    .ok (blockLines folding chomping column [] first.1 first.2)
  | some (⟨chomping, none⟩, q) =>
    let first := findIndent 0 [] q
    .ok (blockLines folding chomping (max least first.2.1) [] first.1 first.2.2)

theorem block_length_le {folding : Bool} {least : Nat} {p q : Point} {text : List Char}
    (read : block folding least p = .ok (text, q)) : q.rest.length ≤ p.rest.length := by
  unfold block at read
  split at read
  · cases read
  · rename_i found
    have same := congrArg Prod.snd (Except.ok.inj read)
    dsimp only at same
    rw [← same]
    exact Nat.le_trans (blockLines_length_le _ _ _ _ _ _)
      (Nat.le_trans (blockBreaks_length_le _ _ _) (header?_length_le found))
  · rename_i found
    have same := congrArg Prod.snd (Except.ok.inj read)
    dsimp only at same
    rw [← same]
    exact Nat.le_trans (blockLines_length_le _ _ _ _ _ _)
      (Nat.le_trans (findIndent_length_le _ _ _) (header?_length_le found))

end Turnstile.Yaml

import Turnstile.Yaml.Point

/-! Scalars in quotation marks. A line break inside them is read as a blank, and every empty
line as a line feed. Only double quotes know escapes. -/
namespace Turnstile.Yaml

/-- What follows in a quoted scalar: its end, or a part of its text. -/
inductive QuotedStep where
  | closing (behind : Point)
  | part (text : List Nat) (behind : Point)

/-- Passes the gaps and empty lines at the start of a line. A document cannot end here. -/
def emptyLines (breaks : List Char) (p : Point) : Except ReadError (List Char × Point) :=
  if p.atMarker then .error .malformed
  else
    match _found : (p.pass isGap).lineBreak? with
    | none => .ok (breaks.reverse, p.pass isGap)
    | some (c, r) => emptyLines (c :: breaks) r
termination_by p.rest.length
decreasing_by exact Point.lineBreak?_pass_length _found

theorem emptyLines_length_le {breaks others : List Char} {p q : Point}
    (read : emptyLines breaks p = .ok (others, q)) : q.rest.length ≤ p.rest.length := by
  fun_induction emptyLines breaks p with
  | case1 => cases read
  | case2 breaks p _ _ =>
    cases read
    exact Point.pass_length_le p isGap
  | case3 breaks p _ c r found ih =>
    exact Nat.le_trans (ih read) (Nat.le_of_lt (Point.lineBreak?_pass_length found))

/-- What line breaks are read as, given the first and those of empty lines behind it. -/
def folded (first : Char) (others : List Char) : List Char :=
  if first ≠ '\n' then first :: others
  else if others.isEmpty then [' ']
  else others

/-- Reads the gaps and line breaks between two words. -/
def quotedGap (p : Point) : Except ReadError QuotedStep :=
  let q := p.pass isGap
  match q.lineBreak? with
  | some (c, r) =>
    match emptyLines [] r with
    | .error e => .error e
    | .ok (others, s) => .ok (.part (codes (folded c others)) s)
  | none => if q.rest.isEmpty then .error .malformed else .ok (.part (codes (p.taken isGap)) q)

theorem quotedGap_length {p q : Point} {text : List Nat} {c : Char} {rest : List Char}
    (following : p.rest = c :: rest) (gap : isGap c || isBreak c)
    (read : quotedGap p = .ok (.part text q)) : q.rest.length < p.rest.length := by
  unfold quotedGap at read
  dsimp only at read
  split at read
  · rename_i found
    split at read
    · cases read
    · rename_i lines
      cases read
      exact Nat.lt_of_le_of_lt (emptyLines_length_le lines) (Point.lineBreak?_pass_length found)
  · rename_i unbroken
    split at read
    · cases read
    · cases read
      rw [Point.pass, Point.advance_rest, List.length_drop, following]
      by_cases blank : isGap c
      · simp only [List.takeWhile_cons, blank, if_true, List.length_cons]
        omega
      · have passed : p.pass isGap = p := by
          rw [Point.pass, following, List.takeWhile_cons, if_neg blank]
          rfl
        rw [passed] at unbroken
        have breaks : isBreak c := by simpa [blank] using gap
        exact absurd unbroken (Point.lineBreak?_ne_none following breaks)

def shortEscape? : Char → Option Nat
  | '0' => some 0
  | 'a' => some 7
  | 'b' => some 8
  | 't' | '\t' => some 9
  | 'n' => some 10
  | 'v' => some 11
  | 'f' => some 12
  | 'r' => some 13
  | 'e' => some 27
  | ' ' => some 32
  | '"' => some 34
  | '/' => some 47
  | '\\' => some 92
  | 'N' => some 0x85
  | '_' => some 0xa0
  | 'L' => some 0x2028
  | 'P' => some 0x2029
  | _ => none

/-- The number of hexadecimal digits behind a letter. -/
def escapeWidth? : Char → Option Nat
  | 'x' => some 2
  | 'u' => some 4
  | 'U' => some 8
  | _ => none

def hexNumber? (digits : List Char) : Option Nat :=
  (digits.mapM Json.hexValue?).map fun values => values.foldl (fun n d => 16 * n + d) 0

/-- Reads digits of an escape. A number may stand for a surrogate, but not for more than the
last code point. -/
def numericEscape (width : Nat) (p : Point) : Except ReadError QuotedStep :=
  let digits := p.rest.take width
  match hexNumber? digits with
  | none => .error .malformed
  | some code =>
    if digits.length < width then .error .malformed
    else if 0x80000000 ≤ code then .error .hugeCode
    else if 0x110000 ≤ code then .error .noSuchCode
    else .ok (.part [code] (p.advance width))

/-- Reads what follows a backslash. -/
def escape (p : Point) : Except ReadError QuotedStep :=
  match p.rest with
  | [] => .error .malformed
  | c :: _ =>
    match shortEscape? c, escapeWidth? c, p.lineBreak? with
    | some code, _, _ => .ok (.part [code] p.forward)
    | none, some width, _ => numericEscape width p.forward
    | none, none, some (_, q) =>
      match emptyLines [] q with
      | .error e => .error e
      | .ok (breaks, r) => .ok (.part (codes breaks) r)
    | none, none, none => .error .malformed

theorem numericEscape_length_le {width : Nat} {p q : Point} {text : List Nat}
    (read : numericEscape width p = .ok (.part text q)) : q.rest.length ≤ p.rest.length := by
  unfold numericEscape at read
  dsimp only at read
  split at read
  · cases read
  · repeat' split at read
    all_goals cases read
    rw [Point.advance_rest, List.length_drop]
    exact Nat.sub_le _ _

theorem escape_length_le {p q : Point} {text : List Nat}
    (read : escape p = .ok (.part text q)) : q.rest.length ≤ p.rest.length := by
  unfold escape at read
  split at read
  · cases read
  · rename_i following
    have nonempty : p.rest ≠ [] := by
      rw [following]
      exact List.cons_ne_nil _ _
    have shorter := Point.forward_length nonempty
    split at read
    · cases read
      exact Nat.le_of_lt shorter
    · exact Nat.le_trans (numericEscape_length_le read) (Nat.le_of_lt shorter)
    · rename_i found
      split at read
      · cases read
      · rename_i lines
        cases read
        exact Nat.le_trans (emptyLines_length_le lines)
          (Nat.le_of_lt (Point.lineBreak?_length found))
    · cases read

def quotedStep (double : Bool) (p : Point) : Except ReadError QuotedStep :=
  match p.rest with
  | [] => .error .malformed
  | c :: rest =>
    if isGap c || isBreak c then quotedGap p
    else if double then
      if c == '"' then .ok (.closing p.forward)
      else if c == '\\' then escape p.forward
      else .ok (.part [c.toNat] p.forward)
    else if c == '\'' then
      if rest.head? == some '\'' then .ok (.part [c.toNat] (p.advance 2))
      else .ok (.closing p.forward)
    else .ok (.part [c.toNat] p.forward)

theorem quotedStep_length {double : Bool} {p q : Point} {text : List Nat}
    (read : quotedStep double p = .ok (.part text q)) : q.rest.length < p.rest.length := by
  unfold quotedStep at read
  split at read
  · cases read
  · rename_i following
    have nonempty : p.rest ≠ [] := by
      rw [following]
      exact List.cons_ne_nil _ _
    have shorter := Point.forward_length nonempty
    split at read
    · rename_i gap
      exact quotedGap_length following gap read
    · split at read
      · split at read
        · cases read
        · split at read
          · exact Nat.lt_of_le_of_lt (escape_length_le read) shorter
          · cases read
            exact shorter
      · split at read
        · split at read
          · cases read
            exact Point.advance_length nonempty (by decide)
          · cases read
        · cases read
          exact shorter

theorem quotedGap_ne_closing (p q : Point) : quotedGap p ≠ .ok (.closing q) := by
  intro read
  unfold quotedGap at read
  dsimp only at read
  split at read
  · split at read <;> cases read
  · split at read <;> cases read

theorem escape_ne_closing (p q : Point) : escape p ≠ .ok (.closing q) := by
  intro read
  unfold escape at read
  split at read
  · cases read
  · split at read
    · cases read
    · unfold numericEscape at read
      dsimp only at read
      repeat' split at read
      all_goals cases read
    · split at read <;> cases read
    · cases read

theorem quotedStep_closing_length_le {double : Bool} {p q : Point}
    (read : quotedStep double p = .ok (.closing q)) : q.rest.length ≤ p.rest.length := by
  unfold quotedStep at read
  split at read
  · cases read
  · split at read
    · exact absurd read (quotedGap_ne_closing p q)
    · split at read
      · split at read
        · cases read
          exact p.forward_length_le
        · split at read
          · exact absurd read (escape_ne_closing _ q)
          · cases read
      · split at read
        · split at read
          · cases read
          · cases read
            exact p.forward_length_le
        · cases read

/-- Reads a quoted scalar behind its opening mark, given its text so far in reverse. -/
def quoted (double : Bool) (done : List Nat) (p : Point) : Except ReadError (List Nat × Point) :=
  match _read : quotedStep double p with
  | .error e => .error e
  | .ok (.closing q) => .ok (done.reverse, q)
  | .ok (.part text q) => quoted double (text.reverse ++ done) q
termination_by p.rest.length
decreasing_by exact quotedStep_length _read

theorem quoted_length_le {double : Bool} {done text : List Nat} {p q : Point}
    (read : quoted double done p = .ok (text, q)) : q.rest.length ≤ p.rest.length := by
  fun_induction quoted double done p with
  | case1 => cases read
  | case2 done p r step =>
    cases read
    exact quotedStep_closing_length_le step
  | case3 done p part r step ih =>
    exact Nat.le_trans (ih read) (Nat.le_of_lt (quotedStep_length step))

end Turnstile.Yaml

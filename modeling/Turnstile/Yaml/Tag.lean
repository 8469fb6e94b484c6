import Turnstile.Yaml.Lexeme

/-! Names, tags and directives of YAML texts. What is read is never longer than what follows. -/
namespace Turnstile.Yaml

def isNameChar (c : Char) : Bool :=
  c.isAlphanum || c == '-' || c == '_'

def isUriChar (c : Char) : Bool :=
  c.isAlphanum || "-;/?:@&=+$,_.!~*'()[]".toList.contains c

/-- Reads escaped bytes. -/
def uriBytes : List Char → Option (List UInt8 × List Char)
  | '%' :: a :: b :: rest =>
    match Json.hexValue? a, Json.hexValue? b, uriBytes rest with
    | some high, some low, some (bytes, after) =>
      some ((16 * high + low).toUInt8 :: bytes, after)
    | _, _, _ => none
  | '%' :: _ => none
  | rest => some ([], rest)

theorem uriBytes_length_le {chars after : List Char} {bytes : List UInt8}
    (read : uriBytes chars = some (bytes, after)) : after.length ≤ chars.length := by
  fun_induction uriBytes chars generalizing bytes with
  | case1 a b rest high low bytes' after' found _ _ ih =>
    cases read
    have := ih found
    simp only [List.length_cons]
    omega
  | case2 => cases read
  | case3 => cases read
  | case4 rest _ _ =>
    cases read
    exact Nat.le_refl _

theorem uriBytes_length {rest after : List Char} {bytes : List UInt8}
    (read : uriBytes ('%' :: rest) = some (bytes, after)) : after.length ≤ rest.length := by
  match rest with
  | a :: b :: rest =>
    rw [uriBytes] at read
    split at read
    · rename_i found
      cases read
      have := uriBytes_length_le found
      simp only [List.length_cons]
      omega
    · cases read
  | [] => cases read
  | [_] => cases read

/-- Reads the characters of a tag, with escapes for bytes of UTF-8. -/
def uri (done : List Char) (chars : List Char) : Option (List Char × List Char) :=
  match chars with
  | [] => some (done.reverse, [])
  | '%' :: rest =>
    match _read : uriBytes ('%' :: rest) with
    | none => none
    | some (bytes, after) =>
      match String.fromUTF8? ⟨bytes.toArray⟩ with
      | none => none
      | some text => uri (text.toList.reverse ++ done) after
  | c :: rest => if isUriChar c then uri (c :: done) rest else some (done.reverse, c :: rest)
termination_by chars.length
decreasing_by
  · exact Nat.lt_succ_of_le (uriBytes_length _read)
  · exact Nat.lt_succ_self _

/-- Reads a tag's characters, of which there must be some. -/
def uri? (p : Point) : Option (String × Point) := do
  let (text, after) ← uri [] p.rest
  if text.isEmpty then none
  else return (String.ofList text, p.advance (p.rest.length - after.length))

theorem uri?_length_le {p q : Point} {text : String} (read : uri? p = some (text, q)) :
    q.rest.length ≤ p.rest.length := by
  obtain ⟨⟨text, after⟩, _, result⟩ := Option.bind_eq_some_iff.mp read
  dsimp only at result
  split at result
  · cases result
  · cases result
    exact p.advance_length_le _

/-- Reads a handle: an exclamation mark alone, or two with a name between them. -/
def handle? (p : Point) : Option (String × Point) :=
  if !p.nextIs '!' then none
  else if p.forward.nextIs ' ' then some ("!", p.forward)
  else
    let name := p.forward.taken isNameChar
    let q := p.forward.pass isNameChar
    if q.nextIs '!' then some (String.ofList ('!' :: name ++ ['!']), q.forward) else none

theorem handle?_length_le {p q : Point} {handle : String}
    (read : handle? p = some (handle, q)) : q.rest.length ≤ p.forward.rest.length := by
  unfold handle? at read
  split at read
  · cases read
  · split at read
    · cases read
      exact Nat.le_refl _
    · dsimp only at read
      split at read
      · cases read
        exact Nat.le_trans (Point.forward_length_le _) (Point.pass_length_le _ _)
      · cases read

/-- Whether a blank, a line break or nothing comes next. -/
def endsDirectiveWord (p : Point) : Bool :=
  p.nextIs ' ' || endsLine p.next?

/-- A tag: its handle, unless it has none, and the rest of it. -/
abbrev Tag := Option String × String

/-- Reads a tag that is written out between angle brackets. -/
def verbatimTag? (p : Point) : Option (Tag × Point) :=
  match uri? p with
  | some (ending, q) => if q.nextIs '>' then some ((none, ending), q.forward) else none
  | none => none

theorem verbatimTag?_length_le {p q : Point} {tag : Tag}
    (read : verbatimTag? p = some (tag, q)) : q.rest.length ≤ p.rest.length := by
  unfold verbatimTag? at read
  split at read
  · rename_i found
    split at read
    · cases read
      exact Nat.le_trans (Point.forward_length_le _) (uri?_length_le found)
    · cases read
  · cases read

/-- Reads the handle of a tag, which is written out if another exclamation mark follows. -/
def tagHandle? (p : Point) : Option (String × Point) :=
  let word := p.forward.taken fun c => !(c == ' ' || isBreak c)
  if word.contains '!' then handle? p else some ("!", p.forward)

theorem tagHandle?_length_le {p q : Point} {handle : String}
    (read : tagHandle? p = some (handle, q)) : q.rest.length ≤ p.forward.rest.length := by
  unfold tagHandle? at read
  dsimp only at read
  split at read
  · exact handle?_length_le read
  · cases read
    exact Nat.le_refl _

/-- Reads a tag that starts with a handle. -/
def handledTag? (p : Point) : Option (Tag × Point) :=
  match tagHandle? p with
  | none => none
  | some (handle, q) => (uri? q).map fun (ending, r) => ((some handle, ending), r)

theorem handledTag?_length_le {p q : Point} {tag : Tag}
    (read : handledTag? p = some (tag, q)) : q.rest.length ≤ p.forward.rest.length := by
  unfold handledTag? at read
  split at read
  · cases read
  · rename_i found
    obtain ⟨⟨ending, r⟩, rest, same⟩ := Option.map_eq_some_iff.mp read
    cases same
    exact Nat.le_trans (uri?_length_le rest) (tagHandle?_length_le found)

/-- Reads a tag in any of its forms. -/
def anyTag? (p : Point) : Option (Tag × Point) :=
  if p.forward.nextIs '<' then verbatimTag? (p.advance 2)
  else if endsWord p.forward.next? then some ((none, "!"), p.forward)
  else handledTag? p

/-- Reads a tag, behind which a word must end. -/
def tag? (p : Point) : Option (Tag × Point) :=
  (anyTag? p).filter fun (_, q) => endsDirectiveWord q

theorem anyTag?_length {p q : Point} {tag : Tag} (nonempty : p.rest ≠ [])
    (read : anyTag? p = some (tag, q)) : q.rest.length < p.rest.length := by
  have shorter := Point.forward_length nonempty
  unfold anyTag? at read
  split at read
  · exact Nat.lt_of_le_of_lt (verbatimTag?_length_le read)
      (Point.advance_length nonempty (by decide))
  · split at read
    · cases read
      exact shorter
    · exact Nat.lt_of_le_of_lt (handledTag?_length_le read) shorter

theorem tag?_length {p q : Point} {tag : Tag} (nonempty : p.rest ≠ [])
    (read : tag? p = some (tag, q)) : q.rest.length < p.rest.length :=
  anyTag?_length nonempty (Option.filter_eq_some_iff.mp read).1

def number? (p : Point) : Option (Nat × Point) :=
  let digits := p.taken Char.isDigit
  if digits.isEmpty then none else some (Json.decimal digits, p.pass Char.isDigit)

theorem number?_length_le {p q : Point} {n : Nat} (read : number? p = some (n, q)) :
    q.rest.length ≤ p.rest.length := by
  unfold number? at read
  dsimp only at read
  split at read
  · cases read
  · cases read
    exact p.pass_length_le _

/-- Reads a version: two numbers with a point between them. -/
def version? (p : Point) : Option (Directive × Point) :=
  match number? p with
  | none => none
  | some (major, q) =>
    if q.nextIs '.' then (number? q.forward).map fun (_, r) => (.version major, r) else none

theorem version?_length_le {p q : Point} {directive : Directive}
    (read : version? p = some (directive, q)) : q.rest.length ≤ p.rest.length := by
  unfold version? at read
  split at read
  · cases read
  · rename_i found
    split at read
    · obtain ⟨⟨minor, r⟩, rest, same⟩ := Option.map_eq_some_iff.mp read
      cases same
      have first := number?_length_le found
      have second := number?_length_le rest
      have point := Point.forward_length_le ‹_›
      omega
    · cases read

/-- Reads a handle and what it stands for. -/
def handleMeaning? (p : Point) : Option (Directive × Point) :=
  match handle? p with
  | none => none
  | some (handle, q) =>
    if q.nextIs ' ' then
      (uri? (q.pass (· == ' '))).map fun (meaning, r) => (.handle handle meaning, r)
    else none

theorem handleMeaning?_length_le {p q : Point} {directive : Directive}
    (read : handleMeaning? p = some (directive, q)) : q.rest.length ≤ p.rest.length := by
  unfold handleMeaning? at read
  split at read
  · cases read
  · rename_i found
    split at read
    · obtain ⟨⟨meaning, r⟩, rest, same⟩ := Option.map_eq_some_iff.mp read
      cases same
      have first := Nat.le_trans (handle?_length_le found) (Point.forward_length_le p)
      have second := Nat.le_trans (uri?_length_le rest) (Point.pass_length_le _ _)
      exact Nat.le_trans second first
    · cases read

/-- Reads what follows the name of a directive. -/
def directiveBody? (name : List Char) (p : Point) : Option (Directive × Point) :=
  if name = ['Y', 'A', 'M', 'L'] then
    (version? (p.pass (· == ' '))).filter fun (_, q) => endsDirectiveWord q
  else if name = ['T', 'A', 'G'] then
    (handleMeaning? (p.pass (· == ' '))).filter fun (_, q) => endsDirectiveWord q
  else some (.other, p.pass fun c => !isBreak c)

theorem directiveBody?_length_le {name : List Char} {p q : Point} {directive : Directive}
    (read : directiveBody? name p = some (directive, q)) : q.rest.length ≤ p.rest.length := by
  unfold directiveBody? at read
  split at read
  · exact Nat.le_trans (version?_length_le (Option.filter_eq_some_iff.mp read).1)
      (p.pass_length_le _)
  · split at read
    · exact Nat.le_trans (handleMeaning?_length_le (Option.filter_eq_some_iff.mp read).1)
        (p.pass_length_le _)
    · cases read
      exact p.pass_length_le _

/-- Reads a directive behind its percent sign, with the end of its line. -/
def directive? (p : Point) : Option (Directive × Point) :=
  let name := p.taken isNameChar
  let q := p.pass isNameChar
  if name.isEmpty || !endsDirectiveWord q then none
  else
    match directiveBody? name q with
    | none => none
    | some (directive, r) => r.passLineEnd?.map fun s => (directive, s)

theorem directive?_length_le {p q : Point} {directive : Directive}
    (read : directive? p = some (directive, q)) : q.rest.length ≤ p.rest.length := by
  unfold directive? at read
  dsimp only at read
  split at read
  · cases read
  · split at read
    · cases read
    · rename_i found
      obtain ⟨s, ended, same⟩ := Option.map_eq_some_iff.mp read
      cases same
      have body := Nat.le_trans (directiveBody?_length_le found) (p.pass_length_le _)
      exact Nat.le_trans (Point.passLineEnd?_length_le ended) body

end Turnstile.Yaml

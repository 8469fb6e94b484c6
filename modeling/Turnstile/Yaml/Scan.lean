import Turnstile.Yaml.Block
import Turnstile.Yaml.Plain
import Turnstile.Yaml.Tag

/-! Lexical analysis of YAML texts. Outside brackets the columns of dashes and keys say where
lists and mappings start and end. Whether something is a key shows only at the colon behind it,
so lexemes that might start one are remembered until then. -/
namespace Turnstile.Yaml

/-- A lexeme that might start a key. -/
structure Candidate where
  number : Nat
  /-- Only a key can stand here. -/
  required : Bool
  index : Nat
  line : Nat
  column : Nat

/-- The most characters that a key may take on its line. -/
def keyLimit : Nat :=
  1024

def Candidate.isStale (c : Candidate) (p : Point) : Bool :=
  c.line ≠ p.line || keyLimit < p.index - c.index

structure Scan where
  point : Point
  /-- The number of open brackets. -/
  level : Nat
  /-- Columns of open lists and mappings without brackets, the innermost first. -/
  columns : List Nat
  /-- Whether a key may start here. -/
  keyAllowed : Bool
  /-- At most one candidate for each number of open brackets. -/
  candidates : List (Nat × Candidate)
  /-- The lexemes so far, the latest first. -/
  lexemes : List (Start × Lexeme)
  /-- The number of lexemes so far. -/
  count : Nat

namespace Scan

def start (text : List Char) : Scan :=
  ⟨.start text, 0, [], true, [], [], 0⟩

def bracketed (s : Scan) : Bool :=
  s.level ≠ 0

def push (s : Scan) (l : Lexeme) : Scan :=
  { s with lexemes := (.nothing, l) :: s.lexemes, count := s.count + 1 }

/-- Passes blanks, comments and line ends. A key may start a line outside brackets. -/
def toNext (keyAllowed bracketed : Bool) (p : Point) : Point × Bool :=
  match _found : p.passComment.lineBreak? with
  | none => (p.passComment, keyAllowed)
  | some (_, behind) => toNext (keyAllowed || !bracketed) bracketed behind
termination_by p.rest.length
decreasing_by
  exact Nat.lt_of_lt_of_le (Point.lineBreak?_length _found) (Point.passComment_length_le p)

theorem toNext_length_le (keyAllowed bracketed : Bool) (p : Point) :
    (toNext keyAllowed bracketed p).1.rest.length ≤ p.rest.length := by
  fun_induction toNext keyAllowed bracketed p with
  | case1 keyAllowed p _ => exact Point.passComment_length_le p
  | case2 keyAllowed p _ behind found ih =>
    have shorter := Point.lineBreak?_length found
    have passed := Point.passComment_length_le p
    omega

/-- Forgets candidates that have gone on for too long. -/
def dropStale (s : Scan) : Except ReadError Scan :=
  if s.candidates.any fun (_, c) => c.required && c.isStale s.point then .error .malformed
  else .ok { s with candidates := s.candidates.filter fun (_, c) => !c.isStale s.point }

theorem dropStale_point {s t : Scan} (dropped : s.dropStale = .ok t) : t.point = s.point := by
  unfold dropStale at dropped
  split at dropped <;> cases dropped
  rfl

/-- Forgets the candidate inside the innermost brackets. -/
def dropCandidate (s : Scan) : Except ReadError Scan :=
  if s.candidates.any fun (level, c) => level = s.level && c.required then .error .malformed
  else .ok { s with candidates := s.candidates.filter fun (level, _) => level ≠ s.level }

theorem dropCandidate_point {s t : Scan} (dropped : s.dropCandidate = .ok t) :
    t.point = s.point := by
  unfold dropCandidate at dropped
  split at dropped <;> cases dropped
  rfl

/-- The next lexeme may start a key. -/
def saveCandidate (s : Scan) : Except ReadError Scan :=
  if s.keyAllowed then
    let p := s.point
    let required := !s.bracketed && s.columns.head? == some p.column
    let candidate := ⟨s.count, required, p.index, p.line, p.column⟩
    match s.dropCandidate with
    | .error e => .error e
    | .ok t => .ok { t with candidates := (t.level, candidate) :: t.candidates }
  else .ok s

theorem saveCandidate_point {s t : Scan} (saved : s.saveCandidate = .ok t) :
    t.point = s.point := by
  unfold saveCandidate at saved
  split at saved
  · dsimp only at saved
    split at saved
    · cases saved
    · rename_i dropped
      have same := dropCandidate_point dropped
      cases saved
      exact same
  · cases saved
    rfl

/-- Ends lists and mappings that stand further right than a column. -/
def finishBeyond (column : Nat) (s : Scan) : List Nat → Scan
  | [] => { s with columns := [] }
  | innermost :: outer =>
    if column < innermost then finishBeyond column (s.push .finish) outer
    else { s with columns := innermost :: outer }

theorem finishBeyond_point (column : Nat) (s : Scan) (columns : List Nat) :
    (finishBeyond column s columns).point = s.point := by
  induction columns generalizing s with
  | nil => rfl
  | cons innermost outer ih =>
    unfold finishBeyond
    split
    · exact ih _
    · rfl

def unwind (s : Scan) (column : Nat) : Scan :=
  if s.bracketed then s else finishBeyond column s s.columns

theorem unwind_point (s : Scan) (column : Nat) : (s.unwind column).point = s.point := by
  unfold unwind
  split
  · rfl
  · exact finishBeyond_point column s s.columns

/-- Ends all lists and mappings without brackets. -/
def unwindAll (s : Scan) : Scan :=
  if s.bracketed then s
  else
    let finished := List.replicate s.columns.length (Start.nothing, Lexeme.finish)
    { s with
      columns := []
      lexemes := finished ++ s.lexemes
      count := s.count + s.columns.length }

theorem unwindAll_point (s : Scan) : s.unwindAll.point = s.point := by
  unfold unwindAll
  split <;> rfl

/-- Whether a column lies further right than all that is open. -/
def isDeeper (s : Scan) (column : Nat) : Bool :=
  match s.columns with
  | [] => true
  | innermost :: _ => innermost < column

/-- Starts a list or mapping at the present column, unless one is open there. -/
def indent (s : Scan) (l : Lexeme) : Scan :=
  if s.isDeeper s.point.column then { s.push l with columns := s.point.column :: s.columns }
  else s

theorem indent_point (s : Scan) (l : Lexeme) : (s.indent l).point = s.point := by
  unfold indent
  split <;> rfl

def move (s : Scan) (p : Point) : Scan :=
  { s with point := p }

def allowKey (s : Scan) (allowed : Bool) : Scan :=
  { s with keyAllowed := allowed }

/-- Takes a number of characters as a lexeme. -/
def take (s : Scan) (length : Nat) (l : Lexeme) : Scan :=
  (s.push l).move (s.point.advance length)

/-- Takes a number of characters as a lexeme that is no part of a key. -/
def takeMark (s : Scan) (keyAllowed : Bool) (length : Nat) (l : Lexeme) :
    Except ReadError Scan :=
  (s.allowKey keyAllowed).dropCandidate.map fun t => t.take length l

theorem takeMark_length {s t : Scan} {keyAllowed : Bool} {length : Nat} {l : Lexeme}
    (taken : s.takeMark keyAllowed length l = .ok t) (nonempty : s.point.rest ≠ [])
    (positive : 0 < length) : t.point.rest.length < s.point.rest.length := by
  obtain ⟨u, dropped, rfl⟩ := exists_of_map_eq_ok taken
  have same : u.point = (s.allowKey keyAllowed).point := dropCandidate_point dropped
  change (u.point.advance length).rest.length < _
  rw [same]
  exact Point.advance_length nonempty positive

def openBracket (s : Scan) (l : Lexeme) : Except ReadError Scan :=
  s.saveCandidate.map fun t => ({ t with level := t.level + 1 }.allowKey true).take 1 l

theorem openBracket_length {s t : Scan} {l : Lexeme} (opened : s.openBracket l = .ok t)
    (nonempty : s.point.rest ≠ []) : t.point.rest.length < s.point.rest.length := by
  obtain ⟨u, saved, rfl⟩ := exists_of_map_eq_ok opened
  have same : u.point = s.point := saveCandidate_point saved
  change (u.point.advance 1).rest.length < _
  rw [same]
  exact Point.advance_length nonempty (by decide)

def closeBracket (s : Scan) (l : Lexeme) : Except ReadError Scan :=
  (s.takeMark false 1 l).map fun t => { t with level := t.level - 1 }

theorem closeBracket_length {s t : Scan} {l : Lexeme} (closed : s.closeBracket l = .ok t)
    (nonempty : s.point.rest ≠ []) : t.point.rest.length < s.point.rest.length := by
  obtain ⟨u, taken, rfl⟩ := exists_of_map_eq_ok closed
  have shorter := takeMark_length taken nonempty (by decide)
  exact shorter

/-- Takes a mark that may start a list or mapping outside brackets, where only a place for a
key will do. Behind it a key may start there, and inside brackets if that is said. -/
def takeStart (s : Scan) (keyAllowed : Bool) (start l : Lexeme) : Except ReadError Scan :=
  if s.bracketed then s.takeMark keyAllowed 1 l
  else if s.keyAllowed then (s.indent start).takeMark true 1 l
  else .error .malformed

theorem takeStart_length {s t : Scan} {keyAllowed : Bool} {start l : Lexeme}
    (taken : s.takeStart keyAllowed start l = .ok t) (nonempty : s.point.rest ≠ []) :
    t.point.rest.length < s.point.rest.length := by
  unfold takeStart at taken
  split at taken
  · exact takeMark_length taken nonempty (by decide)
  · split at taken
    · rw [← indent_point s start] at nonempty ⊢
      exact takeMark_length taken nonempty (by decide)
    · cases taken

def dash (s : Scan) : Except ReadError Scan :=
  s.takeStart true .startList .dash

def questionMark (s : Scan) : Except ReadError Scan :=
  s.takeStart false .startMap .key

/-- Marks a lexeme as the start of a key, and of a mapping if none is open at its column. -/
def markKey (s : Scan) (c : Candidate) : Scan :=
  let opens := !s.bracketed && s.isDeeper c.column
  { s with
    columns := if opens then c.column :: s.columns else s.columns
    lexemes := s.lexemes.modify (s.count - 1 - c.number) fun (_, l) =>
      (if opens then .mapping else .key, l) }

/-- A colon makes a key of the candidate before it. Without one it belongs to a key that was
announced by a question mark. -/
def colon (s : Scan) : Except ReadError Scan :=
  match s.candidates.find? fun (level, _) => level = s.level with
  | some (_, c) =>
    let t := { s with candidates := s.candidates.filter fun (level, _) => level ≠ s.level }
    .ok (((t.markKey c).allowKey false).take 1 .colon)
  | none => s.takeStart false .startMap .colon

theorem colon_length {s t : Scan} (taken : s.colon = .ok t) (nonempty : s.point.rest ≠ []) :
    t.point.rest.length < s.point.rest.length := by
  unfold colon at taken
  split at taken
  · cases taken
    exact Point.advance_length nonempty (by decide)
  · exact takeStart_length taken nonempty

/-- Takes a lexeme that may be a key or start one, up to a position. -/
def takeKey (s : Scan) (keyAllowed : Bool) (l : Lexeme) (p : Point) : Scan :=
  ((s.allowKey keyAllowed).push l).move p

/-- Reads the name of an anchor or alias behind its mark. -/
def name (s : Scan) (l : String → Lexeme) : Except ReadError Scan :=
  match s.saveCandidate with
  | .error e => .error e
  | .ok t =>
    let p := s.point.forward
    let name := p.taken isNameChar
    let q := p.pass isNameChar
    if name.isEmpty || !(endsWord q.next? || q.next?.any ("?:,]\x7d%@`".toList.contains ·)) then
      .error .malformed
    else .ok (t.takeKey false (l (String.ofList name)) q)

theorem name_length {s t : Scan} {l : String → Lexeme} (read : s.name l = .ok t)
    (nonempty : s.point.rest ≠ []) : t.point.rest.length < s.point.rest.length := by
  unfold name at read
  split at read
  · cases read
  · dsimp only at read
    split at read
    · cases read
    · cases read
      exact Nat.lt_of_le_of_lt (Point.pass_length_le _ _) (Point.forward_length nonempty)

def quotedScalar (s : Scan) (double : Bool) : Except ReadError Scan :=
  match s.saveCandidate with
  | .error e => .error e
  | .ok t =>
    match quoted double [] s.point.forward with
    | .error e => .error e
    | .ok (text, p) => .ok (t.takeKey false (.scalar false text) p)

theorem quotedScalar_length {s t : Scan} {double : Bool} (read : s.quotedScalar double = .ok t)
    (nonempty : s.point.rest ≠ []) : t.point.rest.length < s.point.rest.length := by
  unfold quotedScalar at read
  split at read
  · cases read
  · split at read
    · cases read
    · rename_i found
      cases read
      exact Nat.lt_of_le_of_lt (quoted_length_le found) (Point.forward_length nonempty)

/-- The first column that lies further right than all that is open. -/
def innerColumn (s : Scan) : Nat :=
  match s.columns with
  | [] => 0
  | innermost :: _ => innermost + 1

def plainScalar (s : Scan) : Except ReadError Scan :=
  let found := plain s.bracketed s.innerColumn [] [] false s.point
  s.saveCandidate.map fun t =>
    t.takeKey found.lineEnded (.scalar true (codes found.text)) found.behind

theorem plainScalar_length {s t : Scan} (read : s.plainScalar = .ok t)
    (starts : startsPlain s.bracketed s.point.rest) :
    t.point.rest.length < s.point.rest.length := by
  obtain ⟨u, _, rfl⟩ := exists_of_map_eq_ok read
  exact plain_length starts _

def blockScalar (s : Scan) (folding : Bool) : Except ReadError Scan :=
  match s.dropCandidate with
  | .error e => .error e
  | .ok t =>
    match block folding (max 1 s.innerColumn) s.point.forward with
    | .error e => .error e
    | .ok (text, p) => .ok (t.takeKey true (.scalar false (codes text)) p)

theorem blockScalar_length {s t : Scan} {folding : Bool} (read : s.blockScalar folding = .ok t)
    (nonempty : s.point.rest ≠ []) : t.point.rest.length < s.point.rest.length := by
  unfold blockScalar at read
  split at read
  · cases read
  · split at read
    · cases read
    · rename_i found
      cases read
      exact Nat.lt_of_le_of_lt (block_length_le found) (Point.forward_length nonempty)

def tag (s : Scan) : Except ReadError Scan :=
  match s.saveCandidate, tag? s.point with
  | .ok t, some ((handle, ending), p) => .ok (t.takeKey false (.tag handle ending) p)
  | _, _ => .error .malformed

theorem tag_length {s t : Scan} (read : s.tag = .ok t) (nonempty : s.point.rest ≠ []) :
    t.point.rest.length < s.point.rest.length := by
  unfold tag at read
  split at read
  · rename_i found
    cases read
    exact tag?_length nonempty found
  · cases read

def directive (s : Scan) : Except ReadError Scan :=
  match s.unwindAll.dropCandidate, directive? s.point.forward with
  | .ok t, some (d, p) => .ok (t.takeKey false (.directive d) p)
  | _, _ => .error .malformed

theorem directive_length {s t : Scan} (read : s.directive = .ok t)
    (nonempty : s.point.rest ≠ []) : t.point.rest.length < s.point.rest.length := by
  unfold directive at read
  split at read
  · rename_i found
    cases read
    exact Nat.lt_of_le_of_lt (directive?_length_le found) (Point.forward_length nonempty)
  · cases read

def marker (s : Scan) (l : Lexeme) : Except ReadError Scan :=
  s.unwindAll.takeMark false 3 l

theorem marker_length {s t : Scan} {l : Lexeme} (read : s.marker l = .ok t)
    (nonempty : s.point.rest ≠ []) : t.point.rest.length < s.point.rest.length := by
  rw [← unwindAll_point s] at nonempty ⊢
  exact takeMark_length read nonempty (by decide)

/-- Reads a scalar. -/
def scalar (s : Scan) (c : Char) (rest : List Char) : Except ReadError Scan :=
  if c == '|' && !s.bracketed then s.blockScalar false
  else if c == '>' && !s.bracketed then s.blockScalar true
  else if c == '\'' then s.quotedScalar false
  else if c == '"' then s.quotedScalar true
  else if startsPlain s.bracketed (c :: rest) then s.plainScalar
  else .error .malformed

/-- Reads a name or a tag, or else a scalar. -/
def content (s : Scan) (c : Char) (rest : List Char) : Except ReadError Scan :=
  if c == '*' then s.name .alias
  else if c == '&' then s.name .anchor
  else if c == '!' then s.tag
  else s.scalar c rest

/-- Reads a mark of a list or mapping without brackets, or else what stands in one. -/
def item (s : Scan) (c : Char) (rest : List Char) : Except ReadError Scan :=
  if c == '-' && endsWord rest.head? then s.dash
  else if c == '?' && (s.bracketed || endsWord rest.head?) then s.questionMark
  else if c == ':' && (s.bracketed || endsWord rest.head?) then s.colon
  else s.content c rest

/-- Reads a bracket or a comma, or else something between them. -/
def part (s : Scan) (c : Char) (rest : List Char) : Except ReadError Scan :=
  if c == '[' then s.openBracket .openList
  else if c == '\x7b' then s.openBracket .openMap
  else if c == ']' then s.closeBracket .closeList
  else if c == '\x7d' then s.closeBracket .closeMap
  else if c == ',' then s.takeMark true 1 .comma
  else s.item c rest

/-- Reads the lexeme that starts with the next character. -/
def lexeme (s : Scan) (c : Char) (rest : List Char) : Except ReadError Scan :=
  if s.point.column = 0 && c == '%' then s.directive
  else if s.point.column = 0 && c == '-' && s.point.atMarker then s.marker .documentStart
  else if s.point.column = 0 && c == '.' && s.point.atMarker then s.marker .documentEnd
  else s.part c rest

theorem scalar_length {s t : Scan} {c : Char} {rest : List Char}
    (following : s.point.rest = c :: rest) (read : s.scalar c rest = .ok t) :
    t.point.rest.length < s.point.rest.length := by
  have nonempty := following ▸ List.cons_ne_nil c rest
  unfold scalar at read
  split at read
  · exact blockScalar_length read nonempty
  split at read
  · exact blockScalar_length read nonempty
  split at read
  · exact quotedScalar_length read nonempty
  split at read
  · exact quotedScalar_length read nonempty
  split at read
  · rename_i starts
    exact plainScalar_length read (by rwa [following])
  · cases read

theorem content_length {s t : Scan} {c : Char} {rest : List Char}
    (following : s.point.rest = c :: rest) (read : s.content c rest = .ok t) :
    t.point.rest.length < s.point.rest.length := by
  have nonempty := following ▸ List.cons_ne_nil c rest
  unfold content at read
  split at read
  · exact name_length read nonempty
  split at read
  · exact name_length read nonempty
  split at read
  · exact tag_length read nonempty
  · exact scalar_length following read

theorem item_length {s t : Scan} {c : Char} {rest : List Char}
    (following : s.point.rest = c :: rest) (read : s.item c rest = .ok t) :
    t.point.rest.length < s.point.rest.length := by
  have nonempty := following ▸ List.cons_ne_nil c rest
  unfold item at read
  split at read
  · exact takeStart_length read nonempty
  split at read
  · exact takeStart_length read nonempty
  split at read
  · exact colon_length read nonempty
  · exact content_length following read

theorem part_length {s t : Scan} {c : Char} {rest : List Char}
    (following : s.point.rest = c :: rest) (read : s.part c rest = .ok t) :
    t.point.rest.length < s.point.rest.length := by
  have nonempty := following ▸ List.cons_ne_nil c rest
  unfold part at read
  split at read
  · exact openBracket_length read nonempty
  split at read
  · exact openBracket_length read nonempty
  split at read
  · exact closeBracket_length read nonempty
  split at read
  · exact closeBracket_length read nonempty
  split at read
  · exact takeMark_length read nonempty (by decide)
  · exact item_length following read

/-- Every lexeme takes at least one character. -/
theorem lexeme_length {s t : Scan} {c : Char} {rest : List Char}
    (following : s.point.rest = c :: rest) (read : s.lexeme c rest = .ok t) :
    t.point.rest.length < s.point.rest.length := by
  have nonempty := following ▸ List.cons_ne_nil c rest
  unfold lexeme at read
  split at read
  · exact directive_length read nonempty
  split at read
  · exact marker_length read nonempty
  split at read
  · exact marker_length read nonempty
  · exact part_length following read

/-- Goes to the next lexeme. -/
def approach (s : Scan) : Except ReadError Scan :=
  let next := toNext s.keyAllowed s.bracketed s.point
  (dropStale { s with point := next.1, keyAllowed := next.2 }).map fun t =>
    t.unwind next.1.column

theorem approach_length_le {s t : Scan} (near : s.approach = .ok t) :
    t.point.rest.length ≤ s.point.rest.length := by
  obtain ⟨u, dropped, rfl⟩ := exists_of_map_eq_ok near
  rw [unwind_point, dropStale_point dropped]
  exact toNext_length_le _ _ _

/-- Reads lexemes to the end of the text, or up to the first that cannot be read. The latest
comes first. -/
def run (s : Scan) : List (Start × Lexeme) :=
  match _near : s.approach with
  | .error e => (.nothing, .broken e) :: s.lexemes
  | .ok t =>
    match _following : t.point.rest with
    | [] =>
      match t.unwindAll.dropCandidate with
      | .ok last => last.lexemes
      | .error e => (.nothing, .broken e) :: t.lexemes
    | c :: rest =>
      match _read : t.lexeme c rest with
      | .error e => (.nothing, .broken e) :: t.lexemes
      | .ok next => run next
termination_by s.point.rest.length
decreasing_by
  exact Nat.lt_of_lt_of_le (lexeme_length _following _read) (approach_length_le _near)

end Scan

def lex (text : List Char) : List Lexeme :=
  let chars := match text with | '\ufeff' :: rest => rest | _ => text
  (Scan.start chars).run.reverse.flatMap expanded

end Turnstile.Yaml

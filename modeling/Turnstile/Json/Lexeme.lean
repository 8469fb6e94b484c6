import Turnstile.Json

/-! Lexical analysis of JSON texts. The first thing that is no lexeme ends the list, so
that a reader can act on everything before it. -/
namespace Turnstile.Json

inductive Lexeme where
  | openArray
  | closeArray
  | openObject
  | closeObject
  | comma
  | colon
  | scalar (value : Scalar)
  /-- An integer with more digits than are read. -/
  | tooLong (digits : Nat)
  | malformed
  deriving DecidableEq, Repr

def isSpace (c : Char) : Bool :=
  c == ' ' || c == '\t' || c == '\n' || c == '\r'

def hexValue? (c : Char) : Option Nat :=
  if c.isDigit then some (c.toNat - 48)
  else if 'a' ≤ c ∧ c ≤ 'f' then some (c.toNat - 87)
  else if 'A' ≤ c ∧ c ≤ 'F' then some (c.toNat - 55)
  else none

/-- The number that four hexadecimal digits stand for. -/
def hexCode? (a b c d : Char) : Option Nat := do
  return (((← hexValue? a) * 16 + (← hexValue? b)) * 16 + (← hexValue? c)) * 16 + (← hexValue? d)

def isHighSurrogate (code : Nat) : Bool :=
  0xd800 ≤ code && code < 0xdc00

def isLowSurrogate (code : Nat) : Bool :=
  0xdc00 ≤ code && code < 0xe000

/-- The code point that a pair of surrogates stands for. -/
def joinSurrogates (high low : Nat) : Nat :=
  0x10000 + (high - 0xd800) * 0x400 + (low - 0xdc00)

def shortEscape? : Char → Option Char
  | '"' => some '"'
  | '\\' => some '\\'
  | '/' => some '/'
  | 'b' => some '\x08'
  | 'f' => some '\x0c'
  | 'n' => some '\n'
  | 'r' => some '\r'
  | 't' => some '\t'
  | _ => none

def prepend (code : Nat) (result : List Nat × List Char) : List Nat × List Char :=
  (code :: result.1, result.2)

/-- Makes one code point of every two surrogates that belong together. -/
def joinPairs : List Nat → List Nat
  | high :: low :: rest =>
    if isHighSurrogate high && isLowSurrogate low then joinSurrogates high low :: joinPairs rest
    else high :: joinPairs (low :: rest)
  | codes => codes

/-- Reads a string behind its opening quote: the codes that its characters and escapes stand
for, and what follows its closing quote. -/
def scanText : List Char → Option (List Nat × List Char)
  | [] => none
  | '"' :: rest => some ([], rest)
  | '\\' :: 'u' :: a :: b :: c :: d :: rest =>
    match hexCode? a b c d with
    | none => none
    | some code => (scanText rest).map (prepend code)
  | '\\' :: e :: rest =>
    match shortEscape? e with
    | none => none
    | some c => (scanText rest).map (prepend c.toNat)
  | c :: rest =>
    if c.toNat < 0x20 || c == '\\' then none else (scanText rest).map (prepend c.toNat)

theorem scanText_length {chars after : List Char} {codes : List Nat}
    (read : scanText chars = some (codes, after)) : after.length < chars.length := by
  fun_induction scanText chars generalizing codes after <;>
    simp_all [prepend, Option.map_eq_some_iff]
  all_goals grind

def decimal (digits : List Char) : Nat :=
  digits.foldl (fun n c => 10 * n + (c.toNat - 48)) 0

/-- The digits that a number starts with. Zero is never followed by more of them. -/
def wholeDigits : List Char → List Char
  | '0' :: _ => ['0']
  | chars => chars.takeWhile Char.isDigit

/-- A point with digits behind it. -/
def fractionPart : List Char → List Char
  | '.' :: c :: rest => if c.isDigit then '.' :: c :: rest.takeWhile Char.isDigit else []
  | _ => []

/-- A letter with a sign or none, and digits behind it. -/
def exponentPart (chars : List Char) : List Char :=
  match chars with
  | e :: rest =>
    if e == 'e' || e == 'E' then
      let sign := rest.takeWhile fun c => c == '+' || c == '-'
      let digits := (rest.drop sign.length).takeWhile Char.isDigit
      if sign.length ≤ 1 && !digits.isEmpty then e :: sign ++ digits else []
    else []
  | [] => []

/-- The most digits that an integer may have. -/
def digitLimit : Nat :=
  4300

def tooLongMessage (digits : Nat) : String :=
  "Exceeds the limit (" ++ toString digitLimit ++ " digits) for integer string conversion: " ++
    "value has " ++ toString digits ++
    " digits; use sys.set_int_max_str_digits() to increase the limit"

/-- What the parts of a number stand for. Without a fraction and an exponent it is an
integer. -/
def numeral (negative : Bool) (whole fraction exponent : List Char) : Lexeme :=
  if fraction.isEmpty && exponent.isEmpty then
    if digitLimit < whole.length then .tooLong whole.length
    else .scalar (.number (if negative then -(decimal whole : Int) else decimal whole))
  else
    let sign := if negative then ['-'] else []
    .scalar (.real (String.ofList (sign ++ whole ++ fraction ++ exponent)))

/-- Reads a number behind its sign. -/
def scanNumber (negative : Bool) (chars : List Char) : Lexeme × List Char :=
  let whole := wholeDigits chars
  if whole.isEmpty then (.malformed, [])
  else
    let rest := chars.drop whole.length
    let fraction := fractionPart rest
    let exponent := exponentPart (rest.drop fraction.length)
    (numeral negative whole fraction exponent, rest.drop (fraction.length + exponent.length))

/-- Reads one lexeme at the start of a text that does not start with white space. -/
def scanLexeme : List Char → Lexeme × List Char
  | '[' :: rest => (.openArray, rest)
  | ']' :: rest => (.closeArray, rest)
  | '\x7b' :: rest => (.openObject, rest)
  | '\x7d' :: rest => (.closeObject, rest)
  | ',' :: rest => (.comma, rest)
  | ':' :: rest => (.colon, rest)
  | 'n' :: 'u' :: 'l' :: 'l' :: rest => (.scalar .null, rest)
  | 't' :: 'r' :: 'u' :: 'e' :: rest => (.scalar (.bool true), rest)
  | 'f' :: 'a' :: 'l' :: 's' :: 'e' :: rest => (.scalar (.bool false), rest)
  | 'N' :: 'a' :: 'N' :: rest => (.scalar (.real "NaN"), rest)
  | 'I' :: 'n' :: 'f' :: 'i' :: 'n' :: 'i' :: 't' :: 'y' :: rest =>
    (.scalar (.real "Infinity"), rest)
  | '-' :: 'I' :: 'n' :: 'f' :: 'i' :: 'n' :: 'i' :: 't' :: 'y' :: rest =>
    (.scalar (.real "-Infinity"), rest)
  | '"' :: rest =>
    match scanText rest with
    | some (codes, after) => (.scalar (.ofCodes (joinPairs codes)), after)
    | none => (.malformed, [])
  | '-' :: rest => scanNumber true rest
  | chars => scanNumber false chars

theorem scanNumber_length_le (negative : Bool) (chars : List Char) :
    (scanNumber negative chars).2.length ≤ chars.length := by
  unfold scanNumber
  dsimp only
  split <;> simp only [List.length_nil, List.length_drop] <;> omega

theorem scanNumber_length (negative : Bool) (c : Char) (rest : List Char) :
    (scanNumber negative (c :: rest)).2.length < (c :: rest).length := by
  unfold scanNumber
  dsimp only
  split
  · simp only [List.length_nil, List.length_cons]
    omega
  · rename_i nonempty
    have positive : 0 < (wholeDigits (c :: rest)).length := by
      simpa [List.length_pos_iff, List.isEmpty_iff] using nonempty
    simp only [List.length_drop, List.length_cons]
    omega

theorem scanLexeme_length (c : Char) (rest : List Char) :
    (scanLexeme (c :: rest)).2.length < (c :: rest).length := by
  unfold scanLexeme
  split <;> simp_all only [List.cons.injEq, List.length_cons]
  case h_13 =>
    split
    · have := scanText_length ‹_›
      simp_all only
      omega
    · simp only [List.length_nil]
      omega
  case h_14 =>
    exact Nat.lt_succ_of_le (scanNumber_length_le true _)
  case h_15 => exact scanNumber_length false c rest
  all_goals omega

def lex (chars : List Char) : List Lexeme :=
  match chars with
  | [] => []
  | c :: rest =>
    if isSpace c then lex rest
    else
      match _scanned : scanLexeme (c :: rest) with
      | (.malformed, _) => [.malformed]
      | (.tooLong digits, _) => [.tooLong digits]
      | (lexeme, after) => lexeme :: lex after
termination_by chars.length
decreasing_by
  · simp
  · have := scanLexeme_length c rest
    simp_all

end Turnstile.Json

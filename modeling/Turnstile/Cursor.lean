import Turnstile.SyntaxError
import Turnstile.Text.Quoted
import Turnstile.Token

/-! A reading position in a text. Blanks are skipped on arrival, so a position is
always that of a token, of a character that starts none, or of the end. -/
namespace Turnstile

structure Cursor where
  offset : Nat
  rest : List Char
  deriving DecidableEq, Repr

/-- What a cursor sees. -/
inductive Sight where
  | finish
  | invalid
  | token (t : Token) (after : Cursor)
  deriving DecidableEq, Repr

namespace Cursor

def skipBlanks (c : Cursor) : Cursor :=
  ⟨c.offset + (c.rest.takeWhile Token.isBlank).length, c.rest.dropWhile Token.isBlank⟩

def ofString (text : String) : Cursor :=
  skipBlanks ⟨0, text.toList⟩

/-- Passes over some characters and the blanks behind them. -/
def pass (c : Cursor) (count : Nat) (rest : List Char) : Cursor :=
  skipBlanks ⟨c.offset + count, rest⟩

def sight (c : Cursor) : Sight :=
  match c.rest with
  | [] => .finish
  | first :: rest =>
    if Token.startsName first then
      let word := rest.takeWhile Token.continuesName
      .token (.name (String.ofList (first :: word)))
        (c.pass (word.length + 1) (rest.dropWhile Token.continuesName))
    else
      match Token.ofChar? first with
      | some t => .token t (c.pass 1 rest)
      | none => .invalid

theorem skipBlanks_length (c : Cursor) : c.skipBlanks.rest.length ≤ c.rest.length :=
  (List.dropWhile_suffix _).length_le

theorem sight_length {c after : Cursor} {t : Token} (seen : c.sight = .token t after) :
    after.rest.length < c.rest.length := by
  unfold sight at seen
  split at seen
  · cases seen
  · rename_i first rest chars
    have shorter : ∀ count tail, tail.length ≤ rest.length →
        (c.pass count tail).rest.length < c.rest.length := fun count tail le => by
      have bound := skipBlanks_length ⟨c.offset + count, tail⟩
      simp only [chars, List.length_cons, pass] at bound ⊢
      omega
    split at seen
    · cases seen
      exact shorter _ _ (List.dropWhile_suffix _).length_le
    · split at seen
      · cases seen
        exact shorter _ _ (Nat.le_refl _)
      · cases seen

/-- Tokens with their offsets, up to the end or to a character that starts none. -/
structure Lexing where
  tokens : List (Token × Nat)
  stop : Nat
  complete : Bool
  deriving DecidableEq, Repr

def lex (c : Cursor) : Lexing :=
  match _seen : c.sight with
  | .finish => ⟨[], c.offset, true⟩
  | .invalid => ⟨[], c.offset, false⟩
  | .token t after =>
    let tail := lex after
    { tail with tokens := (t, c.offset) :: tail.tokens }
termination_by c.rest.length
decreasing_by exact sight_length ‹_›

def atEnd (c : Cursor) : Bool :=
  c.rest.isEmpty

def complain (c : Cursor) (complaint : Complaint) : SyntaxError :=
  ⟨complaint, c.offset⟩

/-- The token at the cursor, or nothing at the end. -/
def peek (c : Cursor) : Except SyntaxError (Option Token) :=
  match c.sight with
  | .finish => .ok none
  | .invalid => .error (c.complain .invalidSymbol)
  | .token t _ => .ok (some t)

/-- Why a token could not be taken. -/
inductive TakeError where
  | unreadable (error : SyntaxError)
  | pastEnd
  | mismatch (expected : String) (found : Token)
  deriving DecidableEq, Repr

def TakeError.message : TakeError → String
  | unreadable error => error.diagnostic.text
  | pastEnd => "Advancing beyond last token"
  | mismatch expected found =>
    "Token mismatch: expected " ++ Text.quote expected ++ ", got " ++ Text.quote found.text

/-- Takes the token at the cursor; a failure leaves the cursor in place. -/
def take (c : Cursor) : Except TakeError Token × Cursor :=
  match c.sight with
  | .finish => (.error .pastEnd, c)
  | .invalid => (.error (.unreadable (c.complain .invalidSymbol)), c)
  | .token t after => (.ok t, after)

/-- Takes a token that must have the expected text. Another token is taken all the same. -/
def consume (expected : String) (c : Cursor) : Except TakeError Unit × Cursor :=
  match c.take with
  | (.error e, after) => (.error e, after)
  | (.ok t, after) =>
    (if t.text = expected then .ok () else .error (.mismatch expected t), after)

/-- Takes every token that is left, or stops at a character that starts none. -/
def drain (c : Cursor) : Except SyntaxError (List Token) × Cursor :=
  match _seen : c.sight with
  | .finish => (.ok [], c)
  | .invalid => (.error (c.complain .invalidSymbol), c)
  | .token t after =>
    match drain after with
    | (.ok rest, last) => (.ok (t :: rest), last)
    | (.error e, last) => (.error e, last)
termination_by c.rest.length
decreasing_by exact sight_length ‹_›

end Cursor

end Turnstile

import Turnstile.Json.Lexeme

/-! Reading JSON texts. A builder says what to make of each value as soon as its last
character has been read, so a builder's refusal comes before any complaint about what
follows. -/
namespace Turnstile.Json

structure Builder (ε α : Type) where
  scalar : Scalar → α
  array : List α → α
  object : Fields α → Except ε α

/-- An array or object whose end has not been read, with its parts in reverse order. -/
inductive Frame (α : Type) where
  | array (items : List α)
  | object (fields : List (String × α)) (key : String)

/-- Where a reader stands: what may come next, inside which arrays and objects. -/
inductive State (α : Type) where
  | value (stack : List (Frame α))
  | firstItem (stack : List (Frame α))
  | firstKey (stack : List (Frame α))
  | nextKey (fields : List (String × α)) (stack : List (Frame α))
  | colon (fields : List (String × α)) (key : String) (stack : List (Frame α))
  | after (value : α) (stack : List (Frame α))

inductive ReadError (ε : Type) where
  | malformed
  /-- An integer has more digits than are read. -/
  | tooLong (digits : Nat)
  | refused (error : ε)
  deriving DecidableEq, Repr

variable {ε α : Type}

/-- Reads the first lexeme of a value. -/
def startValue (b : Builder ε α) (stack : List (Frame α)) :
    Lexeme → Except (ReadError ε) (State α)
  | .scalar s => .ok (.after (b.scalar s) stack)
  | .openArray => .ok (.firstItem stack)
  | .openObject => .ok (.firstKey stack)
  | .tooLong digits => .error (.tooLong digits)
  | _ => .error .malformed

/-- Reads the name of a field. -/
def startField (fields : List (String × α)) (stack : List (Frame α)) :
    Lexeme → Except (ReadError ε) (State α)
  | .scalar s =>
    match s.name? with
    | some key => .ok (.colon fields key stack)
    | none => .error .malformed
  | _ => .error .malformed

def closeObject (b : Builder ε α) (fields : List (String × α)) (stack : List (Frame α)) :
    Except (ReadError ε) (State α) :=
  match b.object (Fields.ofPairs fields.reverse) with
  | .ok value => .ok (.after value stack)
  | .error e => .error (.refused e)

def step (b : Builder ε α) : State α → Lexeme → Except (ReadError ε) (State α)
  | .value stack, lexeme => startValue b stack lexeme
  | .firstItem stack, .closeArray => .ok (.after (b.array []) stack)
  | .firstItem stack, lexeme => startValue b (.array [] :: stack) lexeme
  | .firstKey stack, .closeObject => closeObject b [] stack
  | .firstKey stack, lexeme => startField [] stack lexeme
  | .nextKey fields stack, lexeme => startField fields stack lexeme
  | .colon fields key stack, .colon => .ok (.value (.object fields key :: stack))
  | .after v (.array items :: stack), .comma => .ok (.value (.array (v :: items) :: stack))
  | .after v (.array items :: stack), .closeArray =>
    .ok (.after (b.array (v :: items).reverse) stack)
  | .after v (.object fields key :: stack), .comma => .ok (.nextKey ((key, v) :: fields) stack)
  | .after v (.object fields key :: stack), .closeObject =>
    closeObject b ((key, v) :: fields) stack
  | _, _ => .error .malformed

/-- Reads lexemes to the end, where one complete value must have been read. -/
def run (b : Builder ε α) : State α → List Lexeme → Except (ReadError ε) α
  | .after v [], [] => .ok v
  | _, [] => .error .malformed
  | state, lexeme :: rest =>
    match step b state lexeme with
    | .ok next => run b next rest
    | .error e => .error e

def read (b : Builder ε α) (text : String) : Except (ReadError ε) α :=
  run b (.value []) (lex text.toList)

mutual

/-- What a builder makes of a value that has been read already. -/
def fold (b : Builder ε α) : Json → Except ε α
  | null => .ok (b.scalar .null)
  | bool v => .ok (b.scalar (.bool v))
  | number n => .ok (b.scalar (.number n))
  | real literal => .ok (b.scalar (.real literal))
  | text s => .ok (b.scalar (.text s))
  | broken codes => .ok (b.scalar (.broken codes))
  | array items => (foldItems b items).map b.array
  | object fields => (foldFields b fields).bind b.object

def foldItems (b : Builder ε α) : List Json → Except ε (List α)
  | [] => .ok []
  | item :: rest =>
    match fold b item with
    | .error e => .error e
    | .ok x => (foldItems b rest).map (x :: ·)

def foldFields (b : Builder ε α) : List (String × Json) → Except ε (List (String × α))
  | [] => .ok []
  | (key, value) :: rest =>
    match fold b value with
    | .error e => .error e
    | .ok x => (foldFields b rest).map ((key, x) :: ·)

end

/-- Makes of every text the value that it denotes. -/
def plain (ε : Type) : Builder ε Json :=
  ⟨ofScalar, array, fun fields => .ok (object fields)⟩

def parse? (text : String) : Option Json :=
  (read (plain Empty) text).toOption

end Turnstile.Json

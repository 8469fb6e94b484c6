import Turnstile.Guarded

/-! Sessions at a cursor: operations one after another, each from where the last one stopped,
whether it failed or not. Whoever runs a session sees tokens as texts. -/
namespace Turnstile.Cursor

/-- What can be done at a cursor. -/
inductive Operation where
  | peek
  | take
  | consume (expected : String)
  | atEnd
  | drain
  | readTerm
  | readSequent
  deriving DecidableEq, Repr

/-- What an operation returns. -/
def Operation.Result : Operation → Type
  | peek => Option String
  | take => String
  | consume _ => Unit
  | atEnd => Bool
  | drain => List String
  | readTerm => Option Formula
  | readSequent => Sequent

def perform (c : Cursor) : (op : Operation) → Guarded op.Result
  | .peek => (c.look, c)
  | .take => c.grab
  | .consume expected => c.expect expected
  | .atEnd => (.ok c.atEnd, c)
  | .drain =>
    match c.drain with
    | (.error e, after) => (.error (.complaint e), after)
    | (.ok tokens, after) => (.ok (tokens.map Token.text), after)
  | .readTerm => c.guardedTerm
  | .readSequent => c.guardedSequent

/-- Where a session ends, whatever its operations return. -/
def run (c : Cursor) (ops : List Operation) : Cursor :=
  ops.foldl (fun c op => (c.perform op).2) c

end Turnstile.Cursor

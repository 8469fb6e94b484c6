import Turnstile.Glyphs

/-! Tokens of written sequents and the characters that form them. -/
namespace Turnstile

inductive Token where
  | name (spelling : String)
  | glyph (g : Glyph)
  | comma
  | opening
  | closing
  deriving DecidableEq, Repr

namespace Token

/-- A token's text in canonical spelling. -/
def text : Token → String
  | name spelling => spelling
  | glyph g => g.symbol
  | comma => ","
  | opening => "("
  | closing => ")"

def isBlank (c : Char) : Bool :=
  c == ' ' || c == '\t'

/-- Names are ASCII words, so other letters cannot start one. -/
def startsName (c : Char) : Bool :=
  c.isAlpha

def continuesName (c : Char) : Bool :=
  c.isAlphanum

/-- The token that a single character stands for. -/
def ofChar? (c : Char) : Option Token :=
  match c with
  | ',' => some comma
  | '(' => some opening
  | ')' => some closing
  | _ => (Glyph.ofChar? c).map glyph

/-- A term ends before a comma, before the turnstile, and at the end of the text. -/
def endsTerm : Token → Bool
  | glyph .turnstile | comma => true
  | _ => false

end Token

/-- A name that can be read back. -/
def IsName (name : String) : Prop :=
  ∃ first rest, name.toList = first :: rest ∧ Token.startsName first = true ∧
    rest.all Token.continuesName = true

end Turnstile

import Turnstile.Fields

/-! JSON values. Integers are of any size, other numbers are kept as they are written, and
objects keep the order of their fields. A text can have surrogates in it, for instance by
escapes without a partner; such a text is broken, because they are no characters. -/
namespace Turnstile

inductive Json where
  | null
  | bool (value : Bool)
  | number (value : Int)
  | real (literal : String)
  | text (value : String)
  | broken (codes : List Nat)
  | array (items : List Json)
  | object (fields : List (String × Json))
  deriving Repr, Inhabited

namespace Json

/-- A value without parts. -/
inductive Scalar where
  | null
  | bool (value : Bool)
  | number (value : Int)
  | real (literal : String)
  | text (value : String)
  | broken (codes : List Nat)
  deriving DecidableEq, Repr

/-- The text of code points, with a replacement for those that are no characters. -/
def mend (codes : List Nat) : String :=
  String.ofList (codes.map fun code => if code.isValidChar then Char.ofNat code else '\ufffd')

namespace Scalar

/-- A text of code points, which is broken unless all of them are characters. -/
def ofCodes (codes : List Nat) : Scalar :=
  if codes.all fun code => decide code.isValidChar then .text (String.ofList (codes.map Char.ofNat))
  else .broken codes

/-- The name of a field. What is no character is replaced in it. -/
def name? : Scalar → Option String
  | text s => some s
  | broken codes => some (mend codes)
  | _ => none

end Scalar

def ofScalar : Scalar → Json
  | .null => null
  | .bool b => bool b
  | .number n => number n
  | .real literal => real literal
  | .text s => text s
  | .broken codes => broken codes

/-- A text, or null in place of none. -/
def ofText? : Option String → Json
  | some s => text s
  | none => null

/-- Whether a number is zero, going by the digits before its exponent. -/
def isZeroLiteral (literal : String) : Bool :=
  (literal.toList.takeWhile fun c => c ≠ 'e' && c ≠ 'E').all fun c =>
    c == '0' || c == '.' || c == '-' || c == '+'

/-- Whether a value counts as true: all do but nothing, false, zero and what is empty. -/
def isTruthy : Json → Bool
  | null => false
  | bool b => b
  | number n => n != 0
  | real literal => !isZeroLiteral literal
  | text s => !s.isEmpty
  | broken codes => !codes.isEmpty
  | array items => !items.isEmpty
  | object fields => !fields.isEmpty

end Json

end Turnstile

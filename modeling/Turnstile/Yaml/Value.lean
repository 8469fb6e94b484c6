import Turnstile.Json.Lexeme
import Turnstile.Text.Quoted

/-! Values of YAML texts: scalars, lists, and mappings whose keys are scalars of any kind. What
needs such values takes a reader of texts as it comes. -/
namespace Turnstile.Yaml

inductive Scalar where
  | json (value : Json.Scalar)
  /-- A value of a kind that is not looked into, as it is written, and whether it counts as
  true. -/
  | foreign (literal : String) (filled : Bool)
  deriving DecidableEq, Repr

namespace Scalar

def text (s : String) : Scalar :=
  json (.text s)

/-- The largest size up to which all integers are numbers with a fraction too. -/
def exactLimit : Nat :=
  9007199254740992

/-- The integer that a number with a fraction is equal to: there are only zeros behind its point,
and it is small enough to be exact. -/
def wholeReal? (literal : String) : Option Int :=
  let chars := literal.toList
  let negative := chars.head? = some '-'
  let unsigned := if negative then chars.drop 1 else chars
  let whole := unsigned.takeWhile Char.isDigit
  match unsigned.drop whole.length with
  | '.' :: fraction =>
    let size := Json.decimal whole
    if !whole.isEmpty && fraction.all (· == '0') && size ≤ exactLimit then
      some (if negative then -(size : Int) else size)
    else none
  | _ => none

/-- The integer that a scalar is equal to. Truth values are equal to zero and one. -/
def whole? : Scalar → Option Int
  | json (.bool b) => some b.toNat
  | json (.number n) => some n
  | json (.real literal) => wholeReal? literal
  | _ => none

/-- Whether two keys are the same. -/
def same (a b : Scalar) : Bool :=
  match a.whole?, b.whole? with
  | some m, some n => m == n
  | _, _ => a == b

/-- The name of a key where only names are possible. -/
def name : Scalar → String
  | json .null => "null"
  | json (.bool true) => "true"
  | json (.bool false) => "false"
  | json (.number n) => toString n
  | json (.real literal) => literal
  | json (.text s) => s
  | json (.broken codes) => Json.mend codes
  | foreign literal _ => literal

end Scalar

inductive Value where
  | scalar (value : Scalar)
  | list (items : List Value)
  | map (entries : List (Scalar × Value))
  deriving Repr, Inhabited

abbrev Entries := List (Scalar × Value)

namespace Entries

/-- The value of a key that is a text. -/
def get? (entries : Entries) (name : String) : Option Value :=
  (entries.find? fun (key, _) => key = .text name).map (·.2)

/-- A new key goes to the end; a known one keeps its place and takes the new value. -/
def set (entries : Entries) (key : Scalar) (value : Value) : Entries :=
  match entries with
  | [] => [(key, value)]
  | (k, v) :: rest => if k.same key then (k, value) :: rest else (k, v) :: set rest key value

/-- Repeated keys keep their first place and their last value. -/
def ofPairs (pairs : List (Scalar × Value)) : Entries :=
  pairs.foldl (fun entries (key, value) => set entries key value) []

end Entries

namespace Value

def null : Value :=
  scalar (.json .null)

def bool (b : Bool) : Value :=
  scalar (.json (.bool b))

def text (s : String) : Value :=
  scalar (.text s)

mutual

def ofJson : Json → Value
  | .null => null
  | .bool b => bool b
  | .number n => scalar (.json (.number n))
  | .real literal => scalar (.json (.real literal))
  | .text s => text s
  | .broken codes => scalar (.json (.broken codes))
  | .array items => list (ofItems items)
  | .object fields => map (ofFields fields)

def ofItems : List Json → List Value
  | [] => []
  | item :: rest => ofJson item :: ofItems rest

def ofFields : List (String × Json) → Entries
  | [] => []
  | (name, value) :: rest => (.text name, ofJson value) :: ofFields rest

end

mutual

/-- The value with names for all of its keys. -/
def toJson : Value → Json
  | scalar (.json s) => .ofScalar s
  | scalar (.foreign literal _) => .text literal
  | list items => .array (itemsJson items)
  | map entries => .object (entriesJson entries)

def itemsJson : List Value → List Json
  | [] => []
  | item :: rest => toJson item :: itemsJson rest

def entriesJson : List (Scalar × Value) → List (String × Json)
  | [] => []
  | (key, value) :: rest => (key.name, toJson value) :: entriesJson rest

end

/-- Whether a value counts as true: all do but nothing, false, zero and what is empty. -/
def isTruthy : Value → Bool
  | scalar (.json s) => (Json.ofScalar s).isTruthy
  | scalar (.foreign _ filled) => filled
  | list items => !items.isEmpty
  | map entries => !entries.isEmpty

end Value

/-- Why a text gives no value. -/
inductive ReadError where
  | malformed
  /-- An escape stands for no code point. -/
  | noSuchCode
  /-- An escape stands for a number far beyond all code points. -/
  | hugeCode
  /-- An integer has more digits than are read. -/
  | tooLong (digits : Nat)
  /-- Nothing is written where a number should be. -/
  | noNumber
  /-- What is written is no integer in a base. -/
  | notAnInteger (base : Nat) (literal : String)
  /-- What is written is no number with or without a fraction. -/
  | notAReal (literal : String)
  /-- What is written is no truth value. -/
  | notATruthValue (literal : String)
  /-- What is written is no date. -/
  | notATime
  /-- A part of a date or of a time of day lies outside its range. -/
  | noSuchTime (complaint : String)
  deriving DecidableEq, Repr

def ReadError.message : ReadError → String
  | malformed => "The text is malformed"
  | noSuchCode => "chr() arg not in range(0x110000)"
  | hugeCode => "An escape is out of range"
  | tooLong digits => Json.tooLongMessage digits
  | noNumber => "A number is missing"
  | notAnInteger base literal =>
    let shown := String.ofList ((Text.quote literal).toList.take 200)
    "invalid literal for int() with base " ++ toString base ++ ": " ++ shown
  | notAReal literal => "could not convert string to float: " ++ Text.quote literal
  | notATruthValue literal => literal
  | notATime => "A date is missing"
  | noSuchTime complaint => complaint

/-- Reads texts. Nothing is taken for granted about which value a text has. -/
abbrev Reader := String → Except ReadError Value

end Turnstile.Yaml

import Turnstile.Yaml.Point

/-! The lexemes of YAML texts. -/
namespace Turnstile.Yaml

inductive Directive where
  | version (major : Nat)
  | handle (handle meaning : String)
  | other
  deriving DecidableEq, Repr

inductive Lexeme where
  | directive (directive : Directive)
  | documentStart
  | documentEnd
  | openList
  | closeList
  | openMap
  | closeMap
  | comma
  /-- A list of dashes starts. -/
  | startList
  /-- A mapping without brackets starts. -/
  | startMap
  /-- A list or mapping without brackets ends. -/
  | finish
  | dash
  | key
  | colon
  | alias (name : String)
  | anchor (name : String)
  | tag (handle : Option String) (ending : String)
  | scalar (plain : Bool) (text : List Nat)
  /-- Nothing can be read from here on. -/
  | broken (error : ReadError)
  deriving DecidableEq, Repr

/-- What a lexeme turned out to start. -/
inductive Start where
  | nothing
  | key
  | mapping
  deriving DecidableEq, Repr

/-- A lexeme with what it turned out to start. -/
def expanded : Start × Lexeme → List Lexeme
  | (.nothing, l) => [l]
  | (.key, l) => [.key, l]
  | (.mapping, l) => [.startMap, .key, l]

end Turnstile.Yaml

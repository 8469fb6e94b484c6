import Turnstile.Registry
import Turnstile.Search

/-! Named ways to search for a proof. -/
namespace Turnstile

/-- A strategy searches with the rules that it returns, given those that the caller asks for.
A strategy whose rules are fixed cannot be asked for others. -/
structure Strategy where
  rules? : Option (List Rule) → Option (List Rule)

namespace Strategy

/-- Searches with any rules, by default with all in their order of priority. -/
def backward : Strategy :=
  ⟨fun asked => some (asked.getD Rule.priority)⟩

def fixed (rules : List Rule) : Strategy :=
  ⟨fun | none => some rules | some _ => none⟩

inductive Error where
  | unknown (name : String)
  | fixedRules
  deriving DecidableEq, Repr

def Error.message : Error → String
  | unknown name => "Unknown search strategy: " ++ name
  | fixedRules => "The rules of this strategy are fixed"

def defaults : Registry Strategy :=
  Registry.empty.register "backward" backward

/-- The rules to search with under a strategy's name. -/
def select (registry : Registry Strategy) (name : String) (asked : Option (List Rule)) :
    Except Error (List Rule) :=
  match registry.find? name with
  | none => .error (.unknown (Text.lower name))
  | some strategy =>
    match strategy.rules? asked with
    | none => .error .fixedRules
    | some rules => .ok rules

end Strategy

end Turnstile

import Turnstile.Fields
import Turnstile.Text.LowerCase

/-! Things registered under names. The case of a name does not count, and the names are
listed in the order in which they were first registered. -/
namespace Turnstile

structure Registry (α : Type) where
  entries : Fields α

namespace Registry

variable {α : Type}

def empty : Registry α :=
  ⟨[]⟩

def register (r : Registry α) (name : String) (x : α) : Registry α :=
  ⟨r.entries.set (Text.lower name) x⟩

def find? (r : Registry α) (name : String) : Option α :=
  r.entries.get? (Text.lower name)

def names (r : Registry α) : List String :=
  r.entries.names

end Registry

end Turnstile

import Turnstile.CommandLine.Options

/-! Reading the arguments. Options that are spelled out may stand before and behind the sequent in
any order, and the outcome is the same as if the sequent had come first. -/
namespace Turnstile.CommandLine

/-- A text that cannot be taken for an option. -/
def Plain (text : String) : Prop :=
  text.toList.head? ≠ some '-'

instance (text : String) : Decidable (Plain text) :=
  inferInstanceAs (Decidable (_ ≠ _))

/-- An option with the value that it takes. -/
inductive Request where
  | switch (switch : Switch)
  | slot (slot : Slot) (value : String)
  deriving DecidableEq, Repr

namespace Request

/-- The option spelled out. Its value is an argument of its own. -/
def arguments : Request → List String
  | switch s => (Keyword.switch s).spellings
  | slot s value => (Keyword.slot s).spellings ++ [value]

def classified : Request → List Argument
  | switch s => [.keyword (.switch s) none]
  | slot s value => [.keyword (.slot s) none, .value value]

def apply (o : Options) : Request → Options
  | switch s => o.turnOn s
  | slot s value => o.fill s value

end Request

variable {rest : List String} {behind : List Argument}

namespace Options

/-- The options with which a sequent is given. -/
def asked (text : String) (requests : List Request) : Options :=
  requests.foldl Request.apply { sequent := some text }

end Options

end Turnstile.CommandLine

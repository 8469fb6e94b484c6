import Turnstile.CommandLine.Run
import Turnstile.Proofs.Loading

/-! What a run is set up with, and when it can be. Only one strategy and two formats are
registered, so whatever the options and the settings ask for, a run searches backward and writes
in a format that can be read again. It is set up exactly if they ask for these and the log can be
written as the settings have it. -/
namespace Turnstile

namespace CommandLine

/-- The settings of the library itself where no variable is set. -/
def unchangedSettings : Settings :=
  ⟨.builtIn, .ofJson (.object [
    ("search", .object [("strategy", .text "backward")]),
    ("format", .object [("output", .text "sequent")]),
    ("output", .object [("show_rules", .bool false)]),
    ("logging", .object [("level", .text "WARNING"),
      ("format", .text "%(levelname)s %(name)s: %(message)s")])])⟩

theorem inForce_unchangedSettings (reader : Yaml.Reader) :
    Settings.InForce reader ⟨[], []⟩ none unchangedSettings :=
  Settings.inForce_builtIn reader rfl

namespace Setup

variable {options : Options} {settings : Settings}

end Setup

end CommandLine

end Turnstile

import Turnstile.Proofs.Arguments
import Turnstile.Proofs.Batch
import Turnstile.Proofs.Outline
import Turnstile.Proofs.Setup

/-! Proving one sequent of the arguments. The exit code tells whether the text is a sequent and
whether that is valid, and the branches that are printed can be read as what refutes it. -/
namespace Turnstile

namespace CommandLine

namespace Setup

variable {setup : Setup} {s : Sequent}

def outlineLines (setup : Setup) (d : Derivation) : List String :=
  (d.map (·.render setup.format.glyphs) id).outlineLines
    (fun label => if setup.showRules then label.filter (· ≠ "") else none) 0

section

variable (known : setup.format = .unicode ∨ setup.format = .ascii)
  (named : ∀ n ∈ s.names, IsName n)
include known named

theorem not_mem_outlineLines {c : Char} (unused : Derivation.Unused c) :
    ∀ line ∈ setup.outlineLines (s.derive setup.rules), c ∉ line.toList := by
  refine unused.not_mem_outlineLines (Format.readable known) named fun label text visible => ?_
  split at visible
  · exact (Option.filter_eq_some_iff.mp visible).1
  · cases visible

end

end Setup

section

variable {reader : Yaml.Reader} {arguments : List String} {options : Options}
  {kept : Option Settings} {settings : Settings} {task : Task} {w : Workspace}
  (parsed : Options.parse arguments = .ok options) (unlisted : options.listFormats = false)
  (asked : options.task? = some task)
  (obtained : (Settings.obtain reader kept options.config : StateM Workspace _).run w =
    (.ok settings, w))
include parsed unlisted asked obtained

end

open Grammar

end CommandLine

end Turnstile

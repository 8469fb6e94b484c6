/-! Records of what a run did, for those who want to follow it. -/
namespace Turnstile

/-- The part of the program that a record comes from. -/
inductive LogSource where
  | search
  | sequentFile
  | commandLine
  deriving DecidableEq, Repr

def LogSource.name : LogSource → String
  | search => "seqprover.search.backward"
  | sequentFile => "seqprover.fileformats.sequent"
  | commandLine => "seqprover.cli.prove"

/-- A record of the lowest level, which is the only one in use. -/
structure LogRecord where
  source : LogSource
  message : String
  deriving DecidableEq, Repr

def LogRecord.level : String :=
  "DEBUG"

end Turnstile

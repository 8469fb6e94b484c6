import Turnstile.CommandLine.Run
import Turnstile.Yaml.Reader

/-! The program: runs once on its arguments, with the files and variables of the machine and the
reader of this library. -/
namespace Turnstile

def isDirectory (path : String) : IO Bool := do
  try (← IO.FS.realPath path).isDir catch _ => return false

/-- Sorts an error by what the library tells apart. Others are passed on. -/
def fileError (path : String) (e : IO.Error) : IO FileError := do
  match e with
  | .noFileOrDirectory _ _ _ | .noSuchThing _ _ _ => return .missing
  | .invalidArgument _ _ _ => return .nameTooLong
  | .inappropriateType _ _ _ =>
    return if ← isDirectory path then .isDirectory else .notDirectory
  | _ => throw e

instance : Host IO where
  present path := do
    try return .ok (← (← IO.FS.realPath path).pathExists) catch _ => return .ok false
  load path := do
    try return .ok (← IO.FS.readBinFile path) catch e => return .error (← fileError path e)
  save path content := do
    try return .ok (← IO.FS.writeBinFile path content)
    catch e => return .error (← fileError path e)
  environment name := IO.getEnv name

namespace CommandLine

def usage : String :=
  "usage: turnstile [options] [sequent]\n\n" ++ "\n".intercalate (Keyword.all.map fun k =>
    "  " ++ ", ".intercalate k.spellings ++ (match k with | .slot _ => " VALUE" | _ => ""))

def Ending.report : Ending → IO UInt32
  | .exit code => return code.toUInt32
  | .stopped .help => do
    IO.println usage
    return 0
  | .stopped (.usage e) => do
    IO.eprintln (usage ++ "\nturnstile: error: " ++ e.message)
    return 2
  | .failed f => do
    IO.eprintln ("turnstile: " ++ f.message)
    return 1

end CommandLine

end Turnstile

def main (arguments : List String) : IO UInt32 := do
  let (outcome, _) ← Turnstile.CommandLine.run Turnstile.Yaml.read arguments none
  for line in outcome.err do
    IO.eprintln line
  for line in outcome.out do
    IO.println line
  outcome.ending.report

import Turnstile.Text.Split

/-! Names of files: their parts, their tidy spelling and their suffix. -/
namespace Turnstile.Path

/-- The parts between slashes, without empty ones and without those that stay in place. -/
def parts (path : String) : List String :=
  ((Text.split '/' path.toList).map String.ofList).filter fun part => part ≠ "" && part ≠ "."

/-- The slashes that make a path absolute. Two of them differ from one; more do not. -/
def root (path : String) : String :=
  match path.toList with
  | '/' :: '/' :: '/' :: _ => "/"
  | '/' :: '/' :: _ => "//"
  | '/' :: _ => "/"
  | _ => ""

/-- A path without superfluous parts. -/
def tidy (path : String) : String :=
  let text := root path ++ "/".intercalate (parts path)
  if text = "" then "." else text

/-- The end of the last part from its last dot, unless the dot is its first or last
character. -/
def suffix (path : String) : String :=
  let name := ((parts path).getLast?.getD "").toList
  let tail := name.reverse.takeWhile (· ≠ '.')
  if tail.isEmpty || name.length ≤ tail.length + 1 then ""
  else String.ofList ('.' :: tail.reverse)

end Turnstile.Path

/-! Lines of a text. A line feed, a carriage return and the two together each end a line, and
nothing else does. -/
namespace Turnstile.Text

/-- The characters of every line. Text behind the last line end is a line too. -/
def splitLines : List Char → List (List Char)
  | [] => []
  | '\r' :: '\n' :: rest => [] :: splitLines rest
  | c :: rest =>
    if c == '\n' || c == '\r' then [] :: splitLines rest
    else
      match splitLines rest with
      | [] => [[c]]
      | line :: others => (c :: line) :: others

/-- The text with a line feed at every line end. -/
def unifyLines : List Char → List Char
  | [] => []
  | '\r' :: '\n' :: rest => '\n' :: unifyLines rest
  | c :: rest => (if c == '\r' then '\n' else c) :: unifyLines rest

end Turnstile.Text

import Turnstile.Text.Printable

/-! Text quoted for messages. Single quotes are used unless the text holds one and no
double quote; characters that do not print are written as escapes. -/
namespace Turnstile.Text

def hexDigit (n : Nat) : Char :=
  if n < 10 then Char.ofNat (48 + n) else Char.ofNat (87 + n)

/-- The lowest hexadecimal digits of a number, in lower case. -/
def hexDigits (width n : Nat) : List Char :=
  match width with
  | 0 => []
  | width + 1 => hexDigits width (n / 16) ++ [hexDigit (n % 16)]

def escapeQuoted (quote c : Char) : List Char :=
  if c == quote || c == '\\' then ['\\', c]
  else if c == '\n' then ['\\', 'n']
  else if c == '\r' then ['\\', 'r']
  else if c == '\t' then ['\\', 't']
  else if isPrintable c then [c]
  else if c.toNat < 0x100 then '\\' :: 'x' :: hexDigits 2 c.toNat
  else if c.toNat < 0x10000 then '\\' :: 'u' :: hexDigits 4 c.toNat
  else '\\' :: 'U' :: hexDigits 8 c.toNat

/-- The quotation mark for a text. -/
def quotationMark (chars : List Char) : Char :=
  if chars.contains '\'' && !chars.contains '"' then '"' else '\''

def quote (text : String) : String :=
  let mark := quotationMark text.toList
  String.ofList (mark :: text.toList.flatMap (escapeQuoted mark) ++ [mark])

/-- A quoted text in which all characters beyond ASCII are escaped too. -/
def quoteAscii (text : String) : String :=
  String.ofList ((quote text).toList.flatMap fun c =>
    if c.toNat < 0x80 then [c]
    else if c.toNat < 0x100 then '\\' :: 'x' :: hexDigits 2 c.toNat
    else if c.toNat < 0x10000 then '\\' :: 'u' :: hexDigits 4 c.toNat
    else '\\' :: 'U' :: hexDigits 8 c.toNat)

/-- Quotes a text of code points that may be no characters. -/
def quoteCodes (codes : List Nat) : String :=
  let mark := quotationMark (codes.map Char.ofNat)
  let escape := fun (code : Nat) =>
    if code.isValidChar then escapeQuoted mark (Char.ofNat code)
    else '\\' :: 'u' :: hexDigits 4 code
  String.ofList (mark :: codes.flatMap escape ++ [mark])

end Turnstile.Text

import Turnstile.Json
import Turnstile.Text.Quoted

/-! Writing JSON texts, on one line or indented, in ASCII or with all characters as they
are. -/
namespace Turnstile.Json

/-- How a text is laid out. Without an indentation it is one line. -/
structure Style where
  indentation : Option Nat
  asciiOnly : Bool
  deriving DecidableEq, Repr

def escapeUnit (unit : Nat) : List Char :=
  '\\' :: 'u' :: Text.hexDigits 4 unit

/-- A code point as one escape, or as two beyond the basic plane. -/
def escapeCode (code : Nat) : List Char :=
  if code < 0x10000 then escapeUnit code
  else
    escapeUnit (0xd800 + (code - 0x10000) / 0x400) ++ escapeUnit (0xdc00 + (code - 0x10000) % 0x400)

def escapeChar (asciiOnly : Bool) (c : Char) : List Char :=
  match c with
  | '"' => ['\\', '"']
  | '\\' => ['\\', '\\']
  | '\n' => ['\\', 'n']
  | '\r' => ['\\', 'r']
  | '\t' => ['\\', 't']
  | '\x0c' => ['\\', 'f']
  | '\x08' => ['\\', 'b']
  | _ =>
    if c.toNat < 0x20 || (asciiOnly && 0x7e < c.toNat) then escapeCode c.toNat else [c]

/-- A code point that may be no character. -/
def escapePoint (asciiOnly : Bool) (code : Nat) : List Char :=
  if code.isValidChar then escapeChar asciiOnly (Char.ofNat code) else escapeUnit code

def writeText (asciiOnly : Bool) (text : String) : String :=
  String.ofList ('"' :: text.toList.flatMap (escapeChar asciiOnly) ++ ['"'])

def writeBroken (asciiOnly : Bool) (codes : List Nat) : String :=
  String.ofList ('"' :: codes.flatMap (escapePoint asciiOnly) ++ ['"'])

/-- A line break and the indentation of a level. -/
def newline (width level : Nat) : String :=
  String.ofList ('\n' :: List.replicate (width * level) ' ')

/-- Puts brackets around the written parts of a value. -/
def enclose (style : Style) (level : Nat) (opening closing : String) (parts : List String) :
    String :=
  if parts.isEmpty then opening ++ closing
  else
    match style.indentation with
    | none => opening ++ ", ".intercalate parts ++ closing
    | some width =>
      opening ++ newline width (level + 1) ++
        ("," ++ newline width (level + 1)).intercalate parts ++ newline width level ++ closing

mutual

def write (style : Style) (level : Nat) : Json → String
  | null => "null"
  | bool true => "true"
  | bool false => "false"
  | number n => toString n
  | real literal => literal
  | text s => writeText style.asciiOnly s
  | broken codes => writeBroken style.asciiOnly codes
  | array items => enclose style level "[" "]" (writeItems style (level + 1) items)
  | object fields => enclose style level "\x7b" "\x7d" (writeFields style (level + 1) fields)

def writeItems (style : Style) (level : Nat) : List Json → List String
  | [] => []
  | item :: rest => write style level item :: writeItems style level rest

def writeFields (style : Style) (level : Nat) : List (String × Json) → List String
  | [] => []
  | (key, value) :: rest =>
    (writeText style.asciiOnly key ++ ": " ++ write style level value) ::
      writeFields style level rest

end

def render (style : Style) (value : Json) : String :=
  write style 0 value

/-- An opening bracket with what stands before the first part behind it. -/
def opened (style : Style) (level : Nat) (opening : String) : String :=
  match style.indentation with
  | none => opening
  | some width => opening ++ newline width (level + 1)

/-- What stands between two parts. -/
def separator (style : Style) (level : Nat) : String :=
  match style.indentation with
  | none => ", "
  | some width => "," ++ newline width level

mutual

/-- Writes a value that breaks off: its last part is written up to where it breaks off, and a
value without parts is what it breaks off before. -/
def writeOpen (style : Style) (level : Nat) : Json → String
  | array items => opened style level "[" ++ writeOpenItems style (level + 1) items
  | object fields => opened style level "\x7b" ++ writeOpenFields style (level + 1) fields
  | _ => ""

def writeOpenItems (style : Style) (level : Nat) : List Json → String
  | [] => ""
  | [last] => writeOpen style level last
  | item :: rest =>
    write style level item ++ separator style level ++ writeOpenItems style level rest

def writeOpenFields (style : Style) (level : Nat) : List (String × Json) → String
  | [] => ""
  | [(key, last)] => writeText style.asciiOnly key ++ ": " ++ writeOpen style level last
  | (key, value) :: rest =>
    writeText style.asciiOnly key ++ ": " ++ write style level value ++ separator style level ++
      writeOpenFields style level rest

end

def renderOpen (style : Style) (value : Json) : String :=
  writeOpen style 0 value

end Turnstile.Json

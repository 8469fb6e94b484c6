import Turnstile.Json.Lexeme
import Turnstile.Log
import Turnstile.Text.Digit
import Turnstile.Text.Quoted

/-! How the lines of a log are laid out: texts between fields, and fields cut or padded to a
width. -/
namespace Turnstile

namespace LogRecord

/-- The capitals of a letter of the Latin alphabet, or of a ligature of two. -/
def capitals (c : Char) : List Char :=
  match c with
  | 'ſ' => ['S']
  | 'ı' => ['I']
  | 'ﬅ' | 'ﬆ' => ['S', 'T']
  | _ => [c.toUpper]

/-- The name of a level, which may be given in any case. -/
def levelName (level : String) : List Char :=
  level.toList.flatMap capitals

/-- Whether records are shown from a level on. -/
def isShownFrom (level : String) : Bool :=
  levelName level == "DEBUG".toList || levelName level == "NOTSET".toList

inductive Field where
  | level
  | source
  | message
  deriving DecidableEq, Repr

def Field.ofName? : String → Option Field
  | "levelname" => some level
  | "name" => some source
  | "message" => some message
  | _ => none

def field (r : LogRecord) : Field → String
  | .level => LogRecord.level
  | .source => r.source.name
  | .message => r.message

end LogRecord

namespace Log

/-- How a field is written: as it is, quoted, or quoted in plain ASCII. -/
inductive Spelling where
  | plain
  | quoted
  | ascii
  deriving DecidableEq, Repr

inductive Piece where
  | char (c : Char)
  | field (field : LogRecord.Field) (spelling : Spelling) (leftward : Bool) (width : Nat)
    (limit : Option Nat)
  /-- Something that has no place in a layout. -/
  | other
  deriving DecidableEq, Repr

structure Layout where
  pieces : List Piece
  deriving DecidableEq, Repr

def isFlag (c : Char) : Bool :=
  c == '#' || c == '0' || c == '+' || c == ' ' || c == '-'

/-- Letters, digits and underscores of names. All letters beyond ASCII count. -/
def isNameChar (c : Char) : Bool :=
  c.isAlphanum || c == '_' || 0x7f < c.toNat

/-- Passes a number or an asterisk, if one comes next. -/
def passNumber (chars : List Char) : List Char :=
  match chars with
  | '*' :: rest => rest
  | _ => chars.dropWhile Text.isDigit

/-- Whether a character ends a field, in any case. -/
def endsField (c : Char) : Bool :=
  "diouxefgcrsa%DIOUXEFGCRSAſıİ".toList.contains c

/-- Whether a field follows a percent sign: a name in parentheses, flags, a width and a limit,
and a letter. -/
def isField (chars : List Char) : Bool :=
  match chars with
  | '(' :: rest =>
    let name := rest.takeWhile isNameChar
    match name, rest.drop name.length with
    | _ :: _, ')' :: rest =>
      match passNumber (rest.dropWhile isFlag) with
      | '.' :: limit =>
        let rest := passNumber limit
        rest.length < limit.length && rest.head?.any endsField
      | rest => rest.head?.any endsField
    | _, _ => false
  | _ => false

/-- Whether a text has a field anywhere. -/
def hasField : List Char → Bool
  | [] => false
  | c :: rest => (c == '%' && isField rest) || hasField rest

/-- The characters up to the parenthesis that closes one opened before. -/
def upToClosing (depth : Nat) : List Char → List Char
  | [] => []
  | c :: rest =>
    if c == ')' then if depth = 0 then [] else c :: upToClosing (depth - 1) rest
    else if c == '(' then c :: upToClosing (depth + 1) rest
    else c :: upToClosing depth rest

def spelling? : Char → Option Spelling
  | 's' => some .plain
  | 'r' => some .quoted
  | 'a' => some .ascii
  | _ => none

/-- Reads what follows a percent sign, and counts the characters that it takes. -/
def piece (chars : List Char) : Piece × Nat :=
  let name := match chars with | '(' :: rest => upToClosing 0 rest | _ => []
  let named := if chars.head? = some '(' then name.length + 2 else 0
  let flags := (chars.drop named).takeWhile isFlag
  let afterFlags := chars.drop (named + flags.length)
  let width := afterFlags.takeWhile Char.isDigit
  let afterWidth := afterFlags.drop width.length
  let limit :=
    match afterWidth with
    | '.' :: rest => some (rest.takeWhile Char.isDigit)
    | _ => none
  let limited := (limit.map fun digits => digits.length + 1).getD 0
  let taken := named + flags.length + width.length + limited + 1
  match afterWidth.drop limited with
  | [] => (.other, taken)
  | c :: _ =>
    if c == '%' then (.char '%', taken)
    else
      match LogRecord.Field.ofName? (String.ofList name), spelling? c with
      | some field, some spelling =>
        (.field field spelling (flags.contains '-') (Json.decimal width) (limit.map Json.decimal),
          taken)
      | _, _ => (.other, taken)

def scanPieces (chars : List Char) : List Piece :=
  match chars with
  | [] => []
  | '%' :: rest =>
    let (found, taken) := piece rest
    found :: scanPieces (rest.drop taken)
  | c :: rest => .char c :: scanPieces rest
termination_by chars.length
decreasing_by
  all_goals
    simp only [List.length_cons, List.length_drop]
    omega

/-- A line without any field would say nothing, so it is no layout. -/
def Layout.parse? (text : String) : Option Layout :=
  if hasField text.toList then some ⟨scanPieces text.toList⟩ else none

/-- Shorter texts are filled up with blanks, on the right if they are to stand leftward. -/
def pad (leftward : Bool) (width : Nat) (text : String) : String :=
  let blanks := String.ofList (List.replicate (width - text.length) ' ')
  if leftward then text ++ blanks else blanks ++ text

def spell (text : String) : Spelling → String
  | .plain => text
  | .quoted => Text.quote text
  | .ascii => Text.quoteAscii text

/-- The first characters of a text, if their number is limited. -/
def cutTo (limit : Option Nat) (text : String) : String :=
  match limit with
  | some n => String.ofList (text.toList.take n)
  | none => text

def Piece.render (r : LogRecord) : Piece → String
  | char c => String.ofList [c]
  | field f spelling leftward width limit =>
    pad leftward width (cutTo limit (spell (r.field f) spelling))
  | other => ""

def Layout.render (l : Layout) (r : LogRecord) : String :=
  String.join (l.pieces.map (·.render r))

end Log

end Turnstile

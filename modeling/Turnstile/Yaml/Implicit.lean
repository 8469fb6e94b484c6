import Turnstile.Text.Blank
import Turnstile.Text.Digit
import Turnstile.Text.LowerCase
import Turnstile.Text.Split
import Turnstile.Yaml.Point

/-! What plain scalars are taken for by the way they are written: truth values, numbers,
dates, nothing, or texts. -/
namespace Turnstile.Yaml

/-- What a value is tagged as, or taken for. -/
inductive Kind where
  | null
  | bool
  | int
  | float
  | time
  /-- The entries of other mappings are to be added here. -/
  | merge
  /-- The mark of a mapping's main value. -/
  | main
  | text
  | list
  | map
  /-- A list of mappings with one entry each, taken for a list of pairs. -/
  | pairs
  /-- Values that settings have no use for: bytes and sets. -/
  | foreign
  | unknown
  deriving DecidableEq, Repr

def Kind.ofTag : String → Kind
  | "tag:yaml.org,2002:null" => null
  | "tag:yaml.org,2002:bool" => bool
  | "tag:yaml.org,2002:int" => int
  | "tag:yaml.org,2002:float" => float
  | "tag:yaml.org,2002:timestamp" => time
  | "tag:yaml.org,2002:merge" => merge
  | "tag:yaml.org,2002:value" => main
  | "tag:yaml.org,2002:str" => text
  | "tag:yaml.org,2002:seq" => list
  | "tag:yaml.org,2002:map" => map
  | "tag:yaml.org,2002:omap" | "tag:yaml.org,2002:pairs" => pairs
  | "tag:yaml.org,2002:binary" | "tag:yaml.org,2002:set" => foreign
  | _ => unknown

def isDigitOrUnderscore (c : Char) : Bool :=
  c.isDigit || c == '_'

def withoutSign (chars : List Char) : List Char :=
  match chars with
  | '+' :: rest | '-' :: rest => rest
  | _ => chars

/-- Digits and underscores up to something else, the first a digit. -/
def number (chars : List Char) : Option (List Char) :=
  match chars with
  | c :: rest => if c.isDigit then some (rest.dropWhile isDigitOrUnderscore) else none
  | [] => none

/-- Whether nothing is left but an exponent with its sign, or nothing at all. -/
def isExponentOrNothing (chars : List Char) : Bool :=
  match chars with
  | [] => true
  | e :: sign :: digits =>
    (e == 'e' || e == 'E') && (sign == '+' || sign == '-') && !digits.isEmpty &&
      digits.all Char.isDigit
  | _ => false

/-- Passes groups of a colon and a number below sixty. -/
def passSixtieths (chars : List Char) : List Char :=
  match chars with
  | ':' :: a :: b :: rest =>
    if a.isDigit && a.toNat < 54 && b.isDigit then passSixtieths rest
    else if a.isDigit then passSixtieths (b :: rest)
    else chars
  | [':', a] => if a.isDigit then [] else chars
  | _ => chars
termination_by chars.length

def isFloat (chars : List Char) : Bool :=
  let unsigned := withoutSign chars
  let decimal :=
    match number unsigned with
    | some ('.' :: rest) => isExponentOrNothing (rest.dropWhile isDigitOrUnderscore)
    | some (':' :: rest) =>
      match passSixtieths (':' :: rest) with
      | '.' :: rest => rest.all isDigitOrUnderscore
      | _ => false
    | _ => false
  let fraction :=
    match chars with
    | '.' :: rest =>
      match number rest with
      | some rest => isExponentOrNothing rest
      | none => false
    | _ => false
  decimal || fraction || [".inf", ".Inf", ".INF"].contains (String.ofList unsigned) ||
    [".nan", ".NaN", ".NAN"].contains (String.ofList chars)

def isInt (chars : List Char) : Bool :=
  match withoutSign chars with
  | '0' :: 'b' :: c :: rest => (c :: rest).all fun c => c == '0' || c == '1' || c == '_'
  | '0' :: 'x' :: c :: rest => (c :: rest).all fun c => (Json.hexValue? c).isSome || c == '_'
  | '0' :: rest => rest.all fun c => ('0' ≤ c && c ≤ '7') || c == '_'
  | c :: rest =>
    c.isDigit &&
      match rest.dropWhile isDigitOrUnderscore with
      | [] => true
      | rest => (passSixtieths rest).isEmpty
  | [] => false

/-- Reads between one and a number of digits. -/
def digits? (least most : Nat) (chars : List Char) : Option (Nat × List Char) :=
  let found := (chars.take most).takeWhile Char.isDigit
  if found.length < least then none else some (Json.decimal found, chars.drop found.length)

def literal? (kind : Char → Bool) : List Char → Option (List Char)
  | c :: rest => if kind c then some rest else none
  | [] => none

/-- A date, with the time of day if there is one. -/
structure Time where
  year : Nat
  month : Nat
  day : Nat
  clock : Option (Nat × Nat × Nat)
  deriving DecidableEq, Repr

/-- Whether what follows a time of day is a fraction of a second and a distance from the zero
meridian, both of which may be missing. -/
def isClockEnd (chars : List Char) : Bool :=
  let rest :=
    match chars with
    | '.' :: rest => rest.dropWhile Char.isDigit
    | _ => chars
  rest.isEmpty ||
    match rest.dropWhile isGap with
    | ['Z'] => true
    | sign :: rest =>
      (sign == '+' || sign == '-') &&
        match digits? 1 2 rest with
        | some (_, []) => true
        | some (_, ':' :: rest) => ((digits? 2 2 rest).map (·.2)) == some []
        | _ => false
    | [] => false

def clock? (chars : List Char) : Option (Nat × Nat × Nat) := do
  let (hour, rest) ← digits? 1 2 chars
  let (minute, rest) ← digits? 2 2 (← literal? (· == ':') rest)
  let (second, rest) ← digits? 2 2 (← literal? (· == ':') rest)
  if isClockEnd rest then return (hour, minute, second) else none

/-- Reads a date. Without a time of day all its parts must have their full length. -/
def time? (chars : List Char) : Option Time := do
  let (year, rest) ← digits? 4 4 chars
  let rest ← literal? (· == '-') rest
  let (month, afterMonth) ← digits? 1 2 rest
  let (day, afterDay) ← digits? 1 2 (← literal? (· == '-') afterMonth)
  match afterDay with
  | [] => if chars.length = 10 then return ⟨year, month, day, none⟩ else none
  | 'T' :: clock | 't' :: clock => return ⟨year, month, day, some (← clock? clock)⟩
  | c :: _ =>
    if isGap c then return ⟨year, month, day, some (← clock? (afterDay.dropWhile isGap))⟩ else none

def boolWords : List String :=
  ["yes", "Yes", "YES", "no", "No", "NO", "true", "True", "TRUE", "false", "False", "FALSE",
    "on", "On", "ON", "off", "Off", "OFF"]

def nullWords : List String :=
  ["", "~", "null", "Null", "NULL"]

def Kind.ofPlain (chars : List Char) : Kind :=
  let word := String.ofList chars
  if boolWords.contains word then bool
  else if isFloat chars then float
  else if isInt chars then int
  else if word = "<<" then merge
  else if nullWords.contains word then null
  else if (time? chars).isSome then time
  else if word = "=" then main
  else text

/-- What a word in small letters says as a truth value. -/
def truth? (word : String) : Option Bool :=
  match word with
  | "yes" | "true" | "on" => some true
  | "no" | "false" | "off" => some false
  | _ => none

/-- A number without the blanks around it and with the digits of one script. -/
def plainNumber (literal : List Char) : List Char :=
  (Text.trim literal).map fun c =>
    match Text.digitValue? c with
    | some d => Char.ofNat ('0'.toNat + d)
    | none => c

/-- A number without the mark of its base, which may stand before its digits. -/
def withoutMark (base : Nat) (chars : List Char) : List Char :=
  match chars with
  | '0' :: c :: digits =>
    if (base, c.toLower) ∈ [(2, 'b'), (8, 'o'), (16, 'x')] then digits else chars
  | _ => chars

def isMinus (chars : List Char) : Bool :=
  chars.head? == some '-'

/-- Reads an integer in a base. Only in base ten is there a limit to its length. -/
def integerIn (base : Nat) (literal : List Char) : Except ReadError Int :=
  let chars := plainNumber literal
  match (withoutMark base (withoutSign chars)).mapM
    fun c => (Json.hexValue? c).filter (· < base) with
  | some (d :: ds) =>
    if base = 10 && Json.digitLimit ≤ ds.length then .error (.tooLong (ds.length + 1))
    else
      let size := (d :: ds).foldl (fun n d => base * n + d) 0
      .ok (if isMinus chars then -(size : Int) else size)
  | _ => .error (.notAnInteger base (String.ofList literal))

/-- The number that is written behind the sign: in base two, sixteen or eight, in sixtieths of
sixtieths, or in base ten. -/
def unsignedInteger (chars : List Char) : Except ReadError Int :=
  match chars with
  | [] => .error .noNumber
  | ['0'] => .ok 0
  | '0' :: 'b' :: digits => integerIn 2 digits
  | '0' :: 'x' :: digits => integerIn 16 digits
  | '0' :: _ => integerIn 8 chars
  | _ =>
    if chars.contains ':' then do
      let parts ← (Text.split ':' chars).mapM (integerIn 10)
      return parts.foldl (fun n d => 60 * n + d) 0
    else integerIn 10 chars

/-- The number that is written. Underscores in it do not count. -/
def integer (chars : List Char) : Except ReadError Int :=
  let chars := chars.filter (· ≠ '_')
  (unsignedInteger (withoutSign chars)).map fun n => if isMinus chars then -n else n

/-- The whole part of a number, without zeros in front. -/
def trimmed (digits : List Char) : List Char :=
  match digits.dropWhile (· == '0') with
  | [] => ['0']
  | digits => digits

/-- A number with digits on both sides of the point. -/
def withPoint (whole fraction : List Char) : List Char :=
  trimmed whole ++ '.' :: if fraction.isEmpty then ['0'] else fraction

/-- A number without a sign, made of digits, a point with digits and an exponent, as it is
written elsewhere. -/
def decimalReal? (chars : List Char) : Option (List Char) :=
  let whole := chars.takeWhile Char.isDigit
  let (fraction, rest) :=
    match chars.drop whole.length with
    | '.' :: rest => (rest.takeWhile Char.isDigit, rest.dropWhile Char.isDigit)
    | rest => ([], rest)
  let exponent := Json.exponentPart rest
  if (whole.isEmpty && fraction.isEmpty) || exponent.length < rest.length then none
  else some (withPoint whole fraction ++ exponent)

def unsignedReal? (chars : List Char) : Option (List Char) :=
  match String.ofList chars with
  | "inf" | "infinity" => some "Infinity".toList
  | "nan" => some "NaN".toList
  | _ => decimalReal? chars

/-- Changes the sign of a number. One that is none has no sign. -/
def negate (chars : List Char) : List Char :=
  match chars with
  | '-' :: rest => rest
  | 'N' :: _ => chars
  | _ => '-' :: chars

def signed (minus : Bool) (chars : List Char) : List Char :=
  if minus then negate chars else chars

/-- Reads one number with or without a fraction. -/
def realPart (literal : List Char) : Except ReadError (List Char) :=
  let chars := plainNumber literal
  match unsignedReal? (withoutSign chars) with
  | some written => .ok (signed (isMinus chars) written)
  | none => .error (.notAReal (String.ofList literal))

/-- A number in sixtieths of sixtieths, the last of which may have a fraction. -/
def sixtieths (parts : List (List Char)) : List Char :=
  let whole := parts.foldl (fun n part => 60 * n + Json.decimal (part.takeWhile Char.isDigit)) 0
  let fraction := (parts.getLast?.getD []).dropWhile (· ≠ '.')
  withPoint (toString whole).toList (fraction.drop 1)

def unsignedReal (chars : List Char) : Except ReadError (List Char) :=
  match String.ofList chars with
  | ".inf" => .ok "Infinity".toList
  | ".nan" => .ok "NaN".toList
  | _ =>
    if chars.contains ':' then do
      let parts ← (Text.split ':' chars).mapM realPart
      return sixtieths parts
    else realPart chars

/-- The number with a fraction that is written, as it is written elsewhere. Underscores in it
do not count. -/
def real (chars : List Char) : Except ReadError String :=
  match (Text.lower (String.ofList (chars.filter (· ≠ '_')))).toList with
  | [] => .error .noNumber
  | chars =>
    (unsignedReal (withoutSign chars)).map fun written =>
      String.ofList (signed (isMinus chars) written)

def isLeapYear (year : Nat) : Bool :=
  year % 4 = 0 && (year % 100 ≠ 0 || year % 400 = 0)

def daysIn (year month : Nat) : Nat :=
  if month = 2 then if isLeapYear year then 29 else 28
  else if [4, 6, 9, 11].contains month then 30
  else 31

/-- What is wrong with a date and time of day, if anything is. -/
def Time.complaint? (t : Time) : Option String :=
  if t.year = 0 then some "year 0 is out of range"
  else if t.month = 0 || 12 < t.month then some "month must be in 1..12"
  else if t.day = 0 || daysIn t.year t.month < t.day then some "day is out of range for month"
  else
    match t.clock with
    | none => none
    | some (hour, minute, second) =>
      if 23 < hour then some "hour must be in 0..23"
      else if 59 < minute then some "minute must be in 0..59"
      else if 59 < second then some "second must be in 0..59"
      else none

end Turnstile.Yaml

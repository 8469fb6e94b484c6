import Turnstile.Text.Lines
import Turnstile.Yaml.Node

/-! Reading YAML texts. -/
namespace Turnstile.Yaml

namespace Node

/-- Whether a character stands for a part of a byte. All others are passed over. -/
def isCodeDigit (c : Char) : Bool :=
  c.isAlphanum || c == '+' || c == '/'

/-- The value of a scalar. -/
def scalarValue (kind : Kind) (text : List Nat) : Except ReadError Scalar :=
  let chars := text.map Char.ofNat
  match kind with
  | .null => .ok (.json .null)
  | .bool =>
    let word := Text.lower (String.ofList chars)
    match truth? word with
    | some b => .ok (.json (.bool b))
    | none => .error (.notATruthValue word)
  | .int => (integer chars).map fun n => .json (.number n)
  | .float => (real chars).map fun written => .json (.real written)
  | .time =>
    match time? chars with
    | none => .error .notATime
    | some t =>
      match t.complaint? with
      | some complaint => .error (.noSuchTime complaint)
      | none => .ok (.foreign (String.ofList chars) true)
  | .text => .ok (.json (.ofCodes text))
  | .foreign => .ok (.foreign (String.ofList chars) (chars.any isCodeDigit))
  | .merge | .main | .list | .map | .pairs | .unknown => .error .malformed

mutual

/-- The text of a scalar, or of the main value of a mapping that has one. -/
def mainText? : Node → Option (List Nat)
  | scalar _ text => some text
  | list _ _ => none
  | map _ entries => mainEntry? entries

def mainEntry? : List (Node × Node) → Option (List Nat)
  | [] => none
  | (scalar .main _, value) :: _ => mainText? value
  | _ :: rest => mainEntry? rest

end

/-- A key must be a scalar. The mark of a main value is a text here. -/
def keyValue : Node → Except ReadError Scalar
  | scalar .main text => .ok (.json (.ofCodes text))
  | scalar kind text => scalarValue kind text
  | _ => .error .malformed

def isMerge : Node → Bool
  | scalar .merge _ => true
  | _ => false

mutual

def value : Node → Except ReadError Value
  | scalar kind text => (scalarValue kind text).map .scalar
  | list kind items =>
    match kind with
    | .list => (values items).map .list
    | .pairs => (pairValues items).map .list
    | _ => .error .malformed
  | map kind entries =>
    match kind with
    | .map => do
      let (merged, own) ← pairs entries
      return .map (Entries.ofPairs (merged ++ own))
    | .foreign => do
      let (merged, own) ← pairs entries
      return .scalar (.foreign "" !(merged ++ own).isEmpty)
    | kind =>
      match mainEntry? entries with
      | some text => (scalarValue kind text).map .scalar
      | none => .error .malformed

def values : List Node → Except ReadError (List Value)
  | [] => .ok []
  | item :: rest => do
    let first ← value item
    let others ← values rest
    return first :: others

/-- Mappings of one entry each, as pairs. -/
def pairValues : List Node → Except ReadError (List Value)
  | [] => .ok []
  | map _ [(key, node)] :: rest => do
    let first ← value key
    let second ← value node
    let others ← pairValues rest
    return .list [first, second] :: others
  | _ :: _ => .error .malformed

/-- The keys and values of a mapping: those that it takes over from others, and its own. -/
def pairs : List (Node × Node) →
    Except ReadError (List (Scalar × Value) × List (Scalar × Value))
  | [] => .ok ([], [])
  | (key, node) :: rest => do
    if isMerge key then
      let taken ← mergedPairs node
      let (merged, own) ← pairs rest
      return (taken ++ merged, own)
    else
      let key ← keyValue key
      let first ← value node
      let (merged, own) ← pairs rest
      return (merged, (key, first) :: own)

/-- What a mapping takes over from another, or from several, of which the first counts most. -/
def mergedPairs : Node → Except ReadError (List (Scalar × Value))
  | map _ entries => do
    let (merged, own) ← pairs entries
    return merged ++ own
  | list _ items => mergedItems items
  | scalar _ _ => .error .malformed

def mergedItems : List Node → Except ReadError (List (Scalar × Value))
  | [] => .ok []
  | map _ entries :: rest => do
    let (merged, own) ← pairs entries
    let others ← mergedItems rest
    return others ++ (merged ++ own)
  | _ :: _ => .error .malformed

end

end Node

/-- The characters that a text may hold. -/
def isAllowed (c : Char) : Bool :=
  c == '\t' || c == '\n' || c == '\r' || (0x20 ≤ c.toNat && c.toNat ≤ 0x7e) || c == '\x85' ||
    (0xa0 ≤ c.toNat && c.toNat ≤ 0xfffd) || 0x10000 ≤ c.toNat

/-- Reads a text whose lines end in any way. Without a document its value is nothing. -/
def read : Reader := fun text => do
  let chars := Text.unifyLines text.toList
  unless chars.all isAllowed do throw .malformed
  match ← Node.ofLexemes? (lex chars) with
  | none => return .null
  | some node => node.value

end Turnstile.Yaml

import Turnstile.Yaml.Implicit
import Turnstile.Yaml.Scan

/-! The parts of a YAML document, put together from its lexemes. Aliases are replaced by what
they stand for. -/
namespace Turnstile.Yaml

inductive Node where
  | scalar (kind : Kind) (text : List Nat)
  | list (kind : Kind) (items : List Node)
  | map (kind : Kind) (entries : List (Node × Node))

/-- What is known while a document is put together. -/
structure Assembly where
  rest : List Lexeme
  /-- Nodes that have been named. A node is missing as long as it is not complete. -/
  anchors : List (String × Option Node)
  /-- What the handles of tags stand for. -/
  handles : List (String × String)

abbrev Assembling := StateT Assembly (Except ReadError)

namespace Node

def empty : Node :=
  scalar .null []

/-- The next lexeme. -/
def peek : Assembling (Option Lexeme) := do
  match (← get).rest with
  | [] => return none
  | .broken e :: _ => throw e
  | l :: _ => return some l

def skip : Assembling Unit :=
  modify fun a => { a with rest := a.rest.tail }

/-- Takes the next lexeme if it is the given one. -/
def accept (l : Lexeme) : Assembling Bool := do
  if (← peek) = some l then
    skip
    return true
  else return false

def demand (l : Lexeme) : Assembling Unit := do
  unless ← accept l do throw .malformed

def nextIn (lexemes : List Lexeme) : Assembling Bool := do
  match ← peek with
  | some l => return lexemes.contains l
  | none => return false

/-- Name and tag of a node. -/
structure Properties where
  anchor : Option String
  tag : Option String

def resolveTag (handle : Option String) (ending : String) : Assembling String := do
  match handle with
  | none => return ending
  | some handle =>
    match (← get).handles.lookup handle with
    | some meaning => return meaning ++ ending
    | none => throw .malformed

def acceptAnchor : Assembling (Option String) := do
  match ← peek with
  | some (.anchor name) =>
    skip
    return some name
  | _ => return none

def acceptTag : Assembling (Option (Option String × String)) := do
  match ← peek with
  | some (.tag handle ending) =>
    skip
    return some (handle, ending)
  | _ => return none

/-- Reads a name and a tag in either order. -/
def properties : Assembling Properties := do
  let first ← acceptAnchor
  let tag ← acceptTag
  let anchor ← if first.isNone && tag.isSome then acceptAnchor else pure first
  match tag with
  | none => return ⟨anchor, none⟩
  | some (handle, ending) => return ⟨anchor, some (← resolveTag handle ending)⟩

/-- What a collection is, given its tag and what it is without one. -/
def kindOf (untagged : Kind) : Option String → Kind
  | none | some "!" => untagged
  | some tag => .ofTag tag

/-- What a scalar is. Without a tag it is a text if it is quoted. -/
def scalarKind (plain : Bool) (text : List Nat) (tag : Option String) : Kind :=
  match tag with
  | some "!" => .ofPlain (text.map Char.ofNat)
  | some tag => .ofTag tag
  | none => if plain then .ofPlain (text.map Char.ofNat) else .text

/-- Names a node before it is read. Every name may be given once. -/
def announce : Option String → Assembling Unit
  | none => return
  | some name => do
    if ((← get).anchors.lookup name).isSome then throw .malformed
    modify fun a => { a with anchors := (name, none) :: a.anchors }

def complete (anchor : Option String) (node : Node) : Assembling Node := do
  match anchor with
  | none => return node
  | some name =>
    modify fun a => { a with
      anchors := a.anchors.map fun (n, old) => if n = name then (n, some node) else (n, old) }
    return node

def ofAlias (name : String) : Assembling Node := do
  match (← get).anchors.lookup name with
  | some (some node) => return node
  | _ => throw .malformed

mutual

/-- Reads a node. Lists and mappings without brackets are possible outside brackets only, and
a list of dashes that starts at the column of a key only as its value. The number bounds the
steps. -/
def read (steps : Nat) (block indentless : Bool) : Assembling Node :=
  match steps with
  | 0 => throw .malformed
  | steps + 1 => do
    match ← peek with
    | some (.alias name) =>
      skip
      ofAlias name
    | _ =>
      let p ← properties
      announce p.anchor
      match ← peek with
      | some (.scalar plain text) =>
        skip
        complete p.anchor (scalar (scalarKind plain text p.tag) text)
      | some .openList =>
        skip
        let items ← bracketedItems steps true []
        complete p.anchor (list (kindOf .list p.tag) items)
      | some .openMap =>
        skip
        let entries ← bracketedEntries steps true []
        complete p.anchor (map (kindOf .map p.tag) entries)
      | next =>
        if indentless && next = some .dash then
          let items ← indentlessItems steps []
          complete p.anchor (list (kindOf .list p.tag) items)
        else if block && next = some .startList then
          skip
          let items ← dashedItems steps []
          complete p.anchor (list (kindOf .list p.tag) items)
        else if block && next = some .startMap then
          skip
          let entries ← blockEntries steps []
          complete p.anchor (map (kindOf .map p.tag) entries)
        else if p.anchor.isSome || p.tag.isSome then
          complete p.anchor (scalar (scalarKind true [] p.tag) [])
        else throw .malformed

/-- The items of a list of dashes up to its end. -/
def dashedItems (steps : Nat) (items : List Node) : Assembling (List Node) :=
  match steps with
  | 0 => throw .malformed
  | steps + 1 => do
    if ← accept .dash then
      let item ← if ← nextIn [.dash, .finish] then pure empty else read steps true false
      dashedItems steps (item :: items)
    else
      demand .finish
      return items.reverse

/-- The items of a list of dashes that ends with the mapping around it. -/
def indentlessItems (steps : Nat) (items : List Node) : Assembling (List Node) :=
  match steps with
  | 0 => throw .malformed
  | steps + 1 => do
    if ← accept .dash then
      let item ←
        if ← nextIn [.dash, .key, .colon, .finish] then pure empty else read steps true false
      indentlessItems steps (item :: items)
    else return items.reverse

/-- The entries of a mapping without brackets up to its end. -/
def blockEntries (steps : Nat) (entries : List (Node × Node)) :
    Assembling (List (Node × Node)) :=
  match steps with
  | 0 => throw .malformed
  | steps + 1 => do
    if ← accept .key then
      let key ←
        if ← nextIn [.key, .colon, .finish] then pure empty else read steps true true
      let value ←
        if ← accept .colon then
          if ← nextIn [.key, .colon, .finish] then pure empty else read steps true true
        else pure empty
      blockEntries steps ((key, value) :: entries)
    else
      demand .finish
      return entries.reverse

/-- The items of a list up to its closing bracket. A key among them makes a mapping of one
entry. -/
def bracketedItems (steps : Nat) (first : Bool) (items : List Node) : Assembling (List Node) :=
  match steps with
  | 0 => throw .malformed
  | steps + 1 => do
    if ← accept .closeList then return items.reverse
    unless first do demand .comma
    if ← accept .key then
      let key ←
        if ← nextIn [.colon, .comma, .closeList] then pure empty else read steps false false
      let value ←
        if ← accept .colon then
          if ← nextIn [.comma, .closeList] then pure empty else read steps false false
        else pure empty
      bracketedItems steps false (map .map [(key, value)] :: items)
    else if ← accept .closeList then return items.reverse
    else
      let item ← read steps false false
      bracketedItems steps false (item :: items)

/-- The entries of a mapping up to its closing brace. -/
def bracketedEntries (steps : Nat) (first : Bool) (entries : List (Node × Node)) :
    Assembling (List (Node × Node)) :=
  match steps with
  | 0 => throw .malformed
  | steps + 1 => do
    if ← accept .closeMap then return entries.reverse
    unless first do demand .comma
    if ← accept .key then
      let key ←
        if ← nextIn [.colon, .comma, .closeMap] then pure empty else read steps false false
      let value ←
        if ← accept .colon then
          if ← nextIn [.comma, .closeMap] then pure empty else read steps false false
        else pure empty
      bracketedEntries steps false ((key, value) :: entries)
    else if ← accept .closeMap then return entries.reverse
    else
      let key ← read steps false false
      bracketedEntries steps false ((key, empty) :: entries)

end

def defaultHandles : List (String × String) :=
  [("!", "!"), ("!!", "tag:yaml.org,2002:")]

/-- Reads the directives before a document. The version and every handle may be given once. -/
def directives (versioned : Bool) (handles : List (String × String)) :
    List Lexeme → Except ReadError (List (String × String) × List Lexeme)
  | .directive (.version major) :: rest =>
    if versioned || major ≠ 1 then .error .malformed else directives true handles rest
  | .directive (.handle handle meaning) :: rest =>
    if (handles.lookup handle).isSome then .error .malformed
    else directives versioned ((handle, meaning) :: handles) rest
  | .directive .other :: rest => directives versioned handles rest
  | rest => .ok (handles ++ defaultHandles, rest)

/-- Whether nothing but marks of an ended document follows. -/
def expectEnd : List Lexeme → Except ReadError Unit
  | [] => .ok ()
  | .broken e :: _ => .error e
  | .documentEnd :: rest => expectEnd rest
  | _ => .error .malformed

def readDocument (handles : List (String × String)) (rest : List Lexeme) :
    Except ReadError Node := do
  let (node, a) ← (read (2 * rest.length + 2) true false).run ⟨rest, [], handles⟩
  expectEnd a.rest
  return node

/-- The document that lexemes are of, if there is one. A second one must not follow. -/
def ofLexemes? (lexemes : List Lexeme) : Except ReadError (Option Node) :=
  match lexemes with
  | [] => .ok none
  | .broken e :: _ => .error e
  | .directive _ :: _ | .documentStart :: _ => do
    let (handles, rest) ← directives false [] lexemes
    match rest with
    | .documentStart :: content =>
      match content with
      | [] | .directive _ :: _ | .documentStart :: _ | .documentEnd :: _ => do
        expectEnd content
        return some empty
      | _ => (readDocument handles content).map some
    | .broken e :: _ => throw e
    | _ => throw .malformed
  | _ => (readDocument defaultHandles lexemes).map some

end Node

end Turnstile.Yaml

import Turnstile.Document
import Turnstile.Outline
import Turnstile.Text.Quoted

/-! Texts of documents: renderings of formulas and sequents as far as they are well typed,
and descriptions of arbitrary documents for messages. -/
namespace Turnstile.Document

/-- Why a document has no rendering. -/
inductive TextError where
  /-- Neither a formula nor a sequent. -/
  | unrenderable
  /-- A part that should be text is not, or a sequent stands in place of a formula. -/
  | notText
  /-- A symbol that is needed has no spelling. -/
  | missing (glyph : Glyph)
  deriving DecidableEq, Repr

def asText : Document → Except TextError String
  | text s => .ok s
  | broken codes => .ok (Json.mend codes)
  | _ => .error .notText

def allTexts : List Document → Except TextError (List String)
  | [] => .ok []
  | d :: rest => do
    let s ← asText d
    let others ← allTexts rest
    return s :: others

def spelling (t : GlyphTable) (g : Glyph) : Except TextError String :=
  match t.spell? g with
  | some s => .ok s
  | none => .error (.missing g)

def renderedSide (t : GlyphTable) : List Document → Except TextError String
  | [] => spelling t .empty
  | parts => (allTexts parts).map ", ".intercalate

/-- Puts the renderings of two operands together. What is wrong with the left one shows before
the right one is rendered. -/
def renderedPair (t : GlyphTable) (g : Glyph) (outermost : Bool)
    (left right : Except TextError Document) : Except TextError Document := do
  let left ← left
  let symbol ← spelling t g
  let left ← asText left
  let right ← asText (← right)
  return text (enclose outermost (left ++ " " ++ symbol ++ " " ++ right))

/-- Puts the renderings of two sides together. The turnstile is looked up last. -/
def renderedSides (t : GlyphTable) (left right : Except TextError (List Document)) :
    Except TextError String := do
  let left ← renderedSide t (← left)
  let right ← renderedSide t (← right)
  return Sequent.joinParts [left, ← spelling t .turnstile, right]

mutual

/-- The rendering of a formula or sequent. A variable is rendered as its name, whatever that
is; a connective needs operands that are rendered as text. -/
def render (t : GlyphTable) (outermost : Bool) : Document → Except TextError Document
  | var name => .ok name
  | neg a => do
    let symbol ← spelling t .neg
    let operand ← asText (← render t false a)
    return text (enclose outermost (symbol ++ operand))
  | conj a b => renderedPair t .conj outermost (render t false a) (render t false b)
  | disj a b => renderedPair t .disj outermost (render t false a) (render t false b)
  | sequent l r => (renderedSides t (renderItems t l) (renderItems t r)).map text
  | _ => .error .unrenderable

/-- Renders the members of a side. A sequent cannot be one. -/
def renderItems (t : GlyphTable) : List Document → Except TextError (List Document)
  | [] => .ok []
  | sequent _ _ :: _ => .error .notText
  | d :: rest => do
    let first ← render t true d
    let others ← renderItems t rest
    return first :: others

end

/-- A rendering that must be text. -/
def renderText (t : GlyphTable) (d : Document) : Except TextError String := do
  asText (← render t false d)

/-- The rendering of a formula. A sequent is none. -/
def renderFormula (t : GlyphTable) (outermost : Bool) (d : Document) : Except TextError Document :=
  match d with
  | sequent _ _ => .error .notText
  | _ => render t outermost d

/-- A fixed number of parts in parentheses; a single one is followed by a comma. -/
def tuple : List String → String
  | [part] => "(" ++ part ++ ",)"
  | parts => "(" ++ ", ".intercalate parts ++ ")"

mutual

/-- A description that shows the whole structure of a document. -/
def describe : Document → Except TextError String
  | null => .ok "None"
  | bool true => .ok "True"
  | bool false => .ok "False"
  | number n => .ok (toString n)
  | real literal => .ok literal
  | text s => .ok (Text.quote s)
  | broken codes => .ok (Text.quoteCodes codes)
  | array items => do return "[" ++ ", ".intercalate (← describeItems items) ++ "]"
  | object fields => do return "\x7b" ++ ", ".intercalate (← describeFields fields) ++ "\x7d"
  | var name => do return "Variable(name=" ++ (← describe name) ++ ")"
  | neg a => do return "Not(child=" ++ (← describe a) ++ ")"
  | conj a b => do return "And(left=" ++ (← describe a) ++ ", right=" ++ (← describe b) ++ ")"
  | disj a b => do return "Or(left=" ++ (← describe a) ++ ", right=" ++ (← describe b) ++ ")"
  | sequent l r => do
    let rendered ← renderedSides .unicode (renderItems .unicode l) (renderItems .unicode r)
    return "Sequent(" ++ rendered ++ ")"
  | fail => .ok "FailLeaf()"
  | node s l children => do
    let root ← describe s
    let below ← describeItems children
    let label ← describe l
    return "SequentNode(sequent=" ++ root ++ ", children=" ++ tuple below ++
      ", rule=" ++ label ++ ")"

def describeItems : List Document → Except TextError (List String)
  | [] => .ok []
  | d :: rest => do
    let first ← describe d
    let others ← describeItems rest
    return first :: others

def describeFields : List (String × Document) → Except TextError (List String)
  | [] => .ok []
  | (key, value) :: rest => do
    let first ← describe value
    let others ← describeFields rest
    return (Text.quote key ++ ": " ++ first) :: others

end

/-- A document as it is shown within other text: formulas, sequents and proof trees are
rendered, and texts stand without quotes. -/
def display (d : Document) : Except TextError String :=
  match d with
  | text _ | broken _ => d.asText
  | var _ | neg _ | conj _ _ | disj _ _ | sequent _ _ => do asText (← render .unicode true d)
  | fail => .ok "Fail"
  | node _ _ _ =>
    match d.toTree? with
    | some t => (t.mapSequents (renderText .unicode)).map (·.outline fun _ => none)
    | none => d.describe
  | _ => d.describe

/-- What the outline of a tree shows of a node: its sequent and, if labels are wanted and the
node is not closed, its label. -/
def headline (t : GlyphTable) (labels closed : Bool) (s label : Document) :
    Except TextError (String × Option String) := do
  let rendered ← render t false s
  if closed then return (← asText rendered, none)
  let shown ← if labels && label.isTruthy then (display label).map some else pure none
  return (← asText rendered, shown)

/-- A tree with its headlines. The first node that has none ends the work. -/
def headlines (t : GlyphTable) (labels : Bool) :
    ProofTree Document Document → Except TextError (ProofTree String (Option String))
  | .closed s l => do
    let (s, l) ← headline t labels true s l
    return .closed s l
  | .failed s l => do
    let (s, l) ← headline t labels false s l
    return .failed s l
  | .single s l p => do
    let (s, l) ← headline t labels false s l
    return .single s l (← headlines t labels p)
  | .double s l p q => do
    let (s, l) ← headline t labels false s l
    let first ← headlines t labels p
    return .double s l first (← headlines t labels q)

/-- The outline of a tree of loosely typed sequents. -/
def outline (t : GlyphTable) (labels : Bool) (tree : ProofTree Document Document) :
    Except TextError String :=
  (headlines t labels tree).map (·.outline id)

end Turnstile.Document

import Turnstile.Sequent

/-! The five symbols of written sequents and the ways to spell them. A reader takes
the canonical character or its keyboard alias; a writer spells each symbol as a
glyph set says. -/
namespace Turnstile

inductive Glyph where
  | turnstile
  | empty
  | neg
  | conj
  | disj
  deriving DecidableEq, Repr

namespace Glyph

def all : List Glyph :=
  [turnstile, empty, neg, conj, disj]

def char : Glyph → Char
  | turnstile => '⊦'
  | empty => '∅'
  | neg => '¬'
  | conj => '∧'
  | disj => '∨'

def symbol (g : Glyph) : String :=
  String.singleton g.char

/-- The keyboard spelling. An empty side has none: it is written as nothing. -/
def alias? : Glyph → Option Char
  | turnstile => some '>'
  | empty => none
  | neg => some '!'
  | conj => some '&'
  | disj => some '|'

/-- Reads either spelling. -/
def ofChar? (c : Char) : Option Glyph :=
  all.find? fun g => g.char == c || g.alias? == some c

end Glyph

/-- One spelling for every symbol. -/
structure Glyphs where
  spell : Glyph → String

namespace Glyphs

def unicode : Glyphs :=
  ⟨Glyph.symbol⟩

def ascii : Glyphs :=
  ⟨fun g => (g.alias?.map String.singleton).getD ""⟩

end Glyphs

/-- Spellings for some of the symbols. Writing fails at the first symbol that is
needed and has none. -/
structure GlyphTable where
  spell? : Glyph → Option String

namespace GlyphTable

def ofGlyphs (g : Glyphs) : GlyphTable :=
  ⟨fun x => some (g.spell x)⟩

/-- The canonical spellings. -/
def unicode : GlyphTable :=
  ofGlyphs .unicode

def ascii : GlyphTable :=
  ofGlyphs .ascii

/-- The table as a glyph set, provided it spells every symbol of the list. -/
def covering (t : GlyphTable) (needed : List Glyph) : Except Glyph Glyphs :=
  match needed.find? fun x => (t.spell? x).isNone with
  | some missing => .error missing
  | none => .ok ⟨fun x => (t.spell? x).getD ""⟩

end GlyphTable

/-- Inner formulas stand in parentheses, the outermost does not. -/
def enclose (outermost : Bool) (text : String) : String :=
  if outermost then text else "(" ++ text ++ ")"

namespace Formula

def render (g : Glyphs) (outermost : Bool) : Formula → String
  | var n => n
  | neg a => enclose outermost (g.spell .neg ++ a.render g false)
  | conj a b =>
    enclose outermost (a.render g false ++ " " ++ g.spell .conj ++ " " ++ b.render g false)
  | disj a b =>
    enclose outermost (a.render g false ++ " " ++ g.spell .disj ++ " " ++ b.render g false)

/-- The symbols of the rendering, in the order in which they are looked up. -/
def glyphs : Formula → List Glyph
  | var _ => []
  | neg a => .neg :: a.glyphs
  | conj a b => a.glyphs ++ .conj :: b.glyphs
  | disj a b => a.glyphs ++ .disj :: b.glyphs

def renderWith (t : GlyphTable) (outermost : Bool) (a : Formula) : Except Glyph String :=
  (t.covering a.glyphs).map fun g => a.render g outermost

end Formula

namespace Sequent

def renderSide (g : Glyphs) : List Formula → String
  | [] => g.spell .empty
  | side => ", ".intercalate (side.map (·.render g true))

/-- Parts that are written as nothing leave no blank behind. -/
def joinParts (parts : List String) : String :=
  " ".intercalate (parts.filter (· ≠ ""))

def render (g : Glyphs) (s : Sequent) : String :=
  joinParts [renderSide g s.left, g.spell .turnstile, renderSide g s.right]

def sideGlyphs : List Formula → List Glyph
  | [] => [.empty]
  | side => side.flatMap Formula.glyphs

/-- The symbols of the rendering: both sides are looked up before the turnstile. -/
def glyphs (s : Sequent) : List Glyph :=
  sideGlyphs s.left ++ sideGlyphs s.right ++ [.turnstile]

def renderWith (t : GlyphTable) (s : Sequent) : Except Glyph String :=
  (t.covering s.glyphs).map s.render

/-- The rendering used in messages. -/
def text (s : Sequent) : String :=
  s.render .unicode

end Sequent

end Turnstile

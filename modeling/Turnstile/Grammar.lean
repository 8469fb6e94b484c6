import Turnstile.Token

/-! The grammar of written formulas and sequents, as relations between lists of tokens and
what they mean. Negation binds tightest, then conjunction, then disjunction, and both binary
connectives associate to the left. The relations say nothing about how to read. -/
namespace Turnstile.Grammar

/-- How tightly a phrase is bound: a term is a disjunction of products, and a product is a
conjunction of factors. -/
inductive Level where
  | term
  | product
  | factor
  deriving DecidableEq, Repr

/-- The tokens of a phrase of some level, and the formula that they mean. -/
inductive Phrase : Level → List Token → Formula → Prop where
  | name (n : String) : Phrase .factor [.name n] (.var n)
  | neg {ts : List Token} {a : Formula} :
      Phrase .factor ts a → Phrase .factor (.glyph .neg :: ts) (.neg a)
  | group {ts : List Token} {a : Formula} :
      Phrase .term ts a → Phrase .factor (.opening :: (ts ++ [.closing])) a
  | factor {ts : List Token} {a : Formula} : Phrase .factor ts a → Phrase .product ts a
  | conj {ts us : List Token} {a b : Formula} :
      Phrase .product ts a → Phrase .factor us b →
        Phrase .product (ts ++ .glyph .conj :: us) (.conj a b)
  | product {ts : List Token} {a : Formula} : Phrase .product ts a → Phrase .term ts a
  | disj {ts us : List Token} {a b : Formula} :
      Phrase .term ts a → Phrase .product us b →
        Phrase .term (ts ++ .glyph .disj :: us) (.disj a b)

/-- One or more terms with commas between them. -/
inductive Terms : List Token → List Formula → Prop where
  | one {ts : List Token} {a : Formula} : Phrase .term ts a → Terms ts [a]
  | cons {ts us : List Token} {a : Formula} {others : List Formula} :
      Phrase .term ts a → Terms us others → Terms (ts ++ .comma :: us) (a :: others)

/-- A side is written as nothing, as the empty mark, or as terms. -/
inductive WrittenSide : List Token → List Formula → Prop where
  | nothing : WrittenSide [] []
  | empty : WrittenSide [.glyph .empty] []
  | terms {ts : List Token} {side : List Formula} : Terms ts side → WrittenSide ts side

inductive WrittenSequent : List Token → Sequent → Prop where
  | mk {ts us : List Token} {left right : List Formula} :
      WrittenSide ts left → WrittenSide us right →
        WrittenSequent (ts ++ .glyph .turnstile :: us) ⟨left, right⟩

/-- Tokens that can be continued to those of a sequent. -/
def Viable (ts : List Token) : Prop :=
  ∃ more s, WrittenSequent (ts ++ more) s

/-- Tokens that can be continued to those of a term. -/
def ViableTerm (ts : List Token) : Prop :=
  ∃ more a, Phrase .term (ts ++ more) a

end Turnstile.Grammar

/-! Propositional formulas, with the measures, views and substitutions that the calculus
needs. What their variables are called by is left open; unless something else is said it is a
text. -/
namespace Turnstile

inductive Formula (α : Type := String) where
  | var (name : α)
  | neg (operand : Formula α)
  | conj (left right : Formula α)
  | disj (left right : Formula α)
  deriving DecidableEq, Repr, Inhabited

namespace Formula

variable {α β : Type}

/-- The outermost form of a formula. -/
inductive Kind where
  | var
  | neg
  | conj
  | disj
  deriving DecidableEq, Repr

/-- The name under which a kind appears in reports and encodings. -/
def Kind.name : Kind → String
  | var => "Variable"
  | neg => "Not"
  | conj => "And"
  | disj => "Or"

def kind : Formula α → Kind
  | var _ => .var
  | neg _ => .neg
  | conj _ _ => .conj
  | disj _ _ => .disj

def connectives : Formula α → Nat
  | var _ => 0
  | neg a => a.connectives + 1
  | conj a b | disj a b => a.connectives + b.connectives + 1

/-- The number of connectives in all formulas of a list. -/
def totalConnectives : List (Formula α) → Nat
  | [] => 0
  | a :: rest => a.connectives + totalConnectives rest

@[simp]
theorem totalConnectives_append (as bs : List (Formula α)) :
    totalConnectives (as ++ bs) = totalConnectives as + totalConnectives bs := by
  induction as with
  | nil => simp [totalConnectives]
  | cons a as ih =>
    simp only [List.cons_append, totalConnectives, ih]
    omega

/-- Variable names from left to right, with repetitions. -/
def names : Formula α → List α
  | var n => [n]
  | neg a => a.names
  | conj a b | disj a b => a.names ++ b.names

def rename (r : α → β) : Formula α → Formula β
  | var n => var (r n)
  | neg a => neg (a.rename r)
  | conj a b => conj (a.rename r) (b.rename r)
  | disj a b => disj (a.rename r) (b.rename r)

/-- The first formula of one of the given kinds, with what stands before and after it. -/
structure Place (α : Type := String) where
  before : List (Formula α)
  formula : Formula α
  after : List (Formula α)
  deriving DecidableEq, Repr

namespace Place

def first? (kinds : List Kind) : List (Formula α) → Option (Place α)
  | [] => none
  | a :: rest =>
    if a.kind ∈ kinds then some ⟨[], a, rest⟩
    else (first? kinds rest).map fun p => { p with before := a :: p.before }

def index (p : Place α) : Nat :=
  p.before.length

/-- The list with the formula at this place replaced by others. -/
def put (p : Place α) (others : List (Formula α)) : List (Formula α) :=
  p.before ++ others ++ p.after

theorem first?_eq_some {kinds : List Kind} {side : List (Formula α)} {p : Place α}
    (found : first? kinds side = some p) :
    side = p.before ++ p.formula :: p.after ∧ p.formula.kind ∈ kinds ∧
      ∀ a ∈ p.before, a.kind ∉ kinds := by
  induction side generalizing p with
  | nil => simp [first?] at found
  | cons a rest ih =>
    simp only [first?] at found
    split at found
    · cases found
      exact ⟨rfl, by assumption, by simp⟩
    · obtain ⟨q, tail, rfl⟩ := Option.map_eq_some_iff.mp found
      obtain ⟨parts, member, none⟩ := ih tail
      exact ⟨by simp [← parts], member, by simpa using ⟨by assumption, none⟩⟩

theorem first?_eq_none_iff {kinds : List Kind} {side : List (Formula α)} :
    first? kinds side = none ↔ ∀ a ∈ side, a.kind ∉ kinds := by
  induction side with
  | nil => simp [first?]
  | cons a rest ih =>
    simp only [first?]
    split
    · simp_all
    · simp_all

end Place

end Formula

/-- The place before which an index cuts a list. Below zero it is counted from the end. -/
def cut (index : Int) (length : Nat) : Nat :=
  if 0 ≤ index then index.toNat else (length + index).toNat

/-- What stands before an index, others, and what stands behind the next index. Past the end
this appends the others. -/
def replaceAt {τ : Type} (index : Int) (others side : List τ) : List τ :=
  side.take (cut index side.length) ++ others ++ side.drop (cut (index + 1) side.length)

theorem cut_natCast (index length : Nat) : cut index length = index := by
  simp [cut]

theorem replaceAt_index {α : Type} (p : Formula.Place α) (others : List (Formula α)) :
    replaceAt p.index others (p.before ++ p.formula :: p.after) = p.put others := by
  have next : cut ((p.index : Int) + 1) (p.before ++ p.formula :: p.after).length = p.index + 1 :=
    cut_natCast (p.index + 1) _
  rw [replaceAt, next, cut_natCast]
  simp [Formula.Place.index, Formula.Place.put, List.drop_append]

/-- Distinct names in code point order. -/
def sortedNames (names : List String) : List String :=
  names.eraseDups.mergeSort (fun a b => decide (a ≤ b))

end Turnstile

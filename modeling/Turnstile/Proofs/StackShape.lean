import Mathlib.Data.List.Chain
import Turnstile.Proofs.Relocation

/-! The shape of the operand stack. Every open parenthesis starts a level of its own, and on each
level at most one disjunction waits with its left operand, then at most one conjunction, and then
negations; only the innermost level may have a complete operand on top, and then nothing but a
disjunction waits below it on that level. This follows from what the stack stands for, and it holds
at every turn of the loop that reads a term. -/
namespace Turnstile

def StackItem.isOperand : StackItem → Bool
  | operand _ => true
  | _ => false

/-- Whether an item is a binary connective. -/
def StackItem.isBinary : StackItem → Bool
  | conj | disj => true
  | _ => false

namespace OperandStack

/-- What waits for an operand on one level, from the bottom up: the left operands of a disjunction
and of a conjunction, where there are any, and a number of negations. -/
structure Pending where
  disjunct : Option Formula
  conjunct : Option Formula
  negations : Nat
  deriving DecidableEq, Repr

/-- A left operand, where there is one, and its connective. -/
def waiting (connective : StackItem) : Option Formula → List StackItem
  | none => []
  | some a => [.operand a, connective]

def Pending.items (p : Pending) : List StackItem :=
  waiting .disj p.disjunct ++ waiting .conj p.conjunct ++ List.replicate p.negations .neg

/-- The level on top, which may have a complete operand. -/
inductive Innermost where
  | pending (p : Pending)
  | complete (disjunct : Option Formula) (a : Formula)
  deriving DecidableEq, Repr

def Innermost.items : Innermost → List StackItem
  | pending p => p.items
  | complete disjunct a => waiting .disj disjunct ++ [.operand a]

/-- Levels that are closed off by a parenthesis each, and the one on top. -/
structure Shape where
  outer : List Pending
  innermost : Innermost
  deriving DecidableEq, Repr

def outerItems (outer : List Pending) : List StackItem :=
  outer.flatMap fun p => p.items ++ [.opening]

theorem outerItems_cons (p : Pending) (outer : List Pending) (items : List StackItem) :
    outerItems (p :: outer) ++ items = p.items ++ .opening :: (outerItems outer ++ items) := by
  simp [outerItems]

theorem outerItems_concat (outer : List Pending) (p : Pending) :
    outerItems (outer ++ [p]) = outerItems outer ++ p.items ++ [.opening] := by
  simp [outerItems]

/-- The items of a stack from the bottom up. -/
def Shape.items (s : Shape) : List StackItem :=
  outerItems s.outer ++ s.innermost.items

/-- What a stack looks like that awaits a phrase of some level. -/
def Shaped (stack : OperandStack) : Grammar.Level → Prop
  | .term => ∃ outer, stack.reverse = outerItems outer
  | .product => ∃ outer disjunct, stack.reverse = outerItems outer ++ waiting .disj disjunct
  | .factor => ∃ outer p, stack.reverse = outerItems outer ++ Pending.items p

theorem Awaits.shaped {level : Grammar.Level} {ts : List Token} {stack : OperandStack}
    (awaits : Awaits level ts stack) : Shaped stack level := by
  induction awaits with
  | start => exact ⟨[], rfl⟩
  | opening _ ih =>
    obtain ⟨outer, p, same⟩ := ih
    exact ⟨outer ++ [p], by rw [List.reverse_cons, same, outerItems_concat]⟩
  | term _ ih =>
    obtain ⟨outer, same⟩ := ih
    exact ⟨outer, none, by rw [same, waiting, List.append_nil]⟩
  | @disj _ _ a _ _ _ ih =>
    obtain ⟨outer, same⟩ := ih
    refine ⟨outer, some a, ?_⟩
    simp [waiting, same]
  | product _ ih =>
    obtain ⟨outer, disjunct, same⟩ := ih
    refine ⟨outer, ⟨disjunct, none, 0⟩, ?_⟩
    simp [Pending.items, waiting, same]
  | @conj _ _ a _ _ _ ih =>
    obtain ⟨outer, disjunct, same⟩ := ih
    refine ⟨outer, ⟨disjunct, some a, 0⟩, ?_⟩
    simp [Pending.items, waiting, same]
  | neg _ ih =>
    obtain ⟨outer, p, same⟩ := ih
    refine ⟨outer, ⟨p.disjunct, p.conjunct, p.negations + 1⟩, ?_⟩
    simp [Pending.items, List.replicate_succ', same]

theorem Represents.exists_shape {ts : List Token} {stack : OperandStack}
    (represents : Represents ts stack) : ∃ shape : Shape, shape.items = stack.reverse := by
  cases represents with
  | awaiting awaits =>
    obtain ⟨outer, p, same⟩ := awaits.shaped
    exact ⟨⟨outer, .pending p⟩, same.symm⟩
  | @complete _ _ a _ awaits _ =>
    obtain ⟨outer, disjunct, same⟩ := awaits.shaped
    refine ⟨⟨outer, .complete disjunct a⟩, ?_⟩
    rw [List.reverse_cons, same, Shape.items, Innermost.items, List.append_assoc]

/-- What may lie directly under an item: under an operand neither a negation nor a conjunction. -/
def Bears (lower upper : StackItem) : Prop :=
  upper.isOperand = true → lower ≠ .neg ∧ lower ≠ .conj

theorem bears_of_not_isOperand {upper : StackItem} (symbol : upper.isOperand = false)
    (lower : StackItem) : Bears lower upper := by
  intro operand
  cases symbol.symm.trans operand

theorem isChain_disj {items : List StackItem} (chain : items.IsChain Bears)
    (disjunct : Option Formula) : (waiting .disj disjunct ++ items).IsChain Bears := by
  cases disjunct with
  | none => exact chain
  | some a =>
    refine .cons_cons (bears_of_not_isOperand rfl _) (List.isChain_cons.mpr ⟨?_, chain⟩)
    intro upper _ _
    simp

theorem isChain_negations (negations : Nat) :
    (List.replicate negations StackItem.neg).IsChain Bears :=
  List.isChain_replicate_of_rel negations (bears_of_not_isOperand rfl _)

theorem Pending.isChain_items (p : Pending) : p.items.IsChain Bears := by
  obtain ⟨disjunct, conjunct, negations⟩ := p
  rw [Pending.items, List.append_assoc]
  apply isChain_disj
  cases conjunct with
  | none => exact isChain_negations negations
  | some a =>
    refine .cons_cons (bears_of_not_isOperand rfl _) ?_
    change (.conj :: List.replicate negations StackItem.neg).IsChain Bears
    rw [List.isChain_cons]
    refine ⟨?_, isChain_negations negations⟩
    intro upper first
    rw [List.eq_of_mem_replicate (List.mem_of_mem_head? first)]
    exact bears_of_not_isOperand rfl _

theorem Innermost.isChain_items (i : Innermost) : i.items.IsChain Bears := by
  cases i with
  | pending p => exact p.isChain_items
  | complete disjunct a => exact isChain_disj (.singleton _) disjunct

theorem Shape.isChain_items (s : Shape) : s.items.IsChain Bears := by
  obtain ⟨outer, innermost⟩ := s
  induction outer with
  | nil => exact innermost.isChain_items
  | cons p outer ih =>
    -- A parenthesis bears whatever is on it, and anything bears a parenthesis.
    rw [Shape.items, outerItems_cons, List.isChain_append]
    refine ⟨p.isChain_items, List.isChain_cons.mpr ⟨?_, ih⟩, ?_⟩
    · intro upper _ _
      simp
    · intro lower _ upper first
      cases first
      exact bears_of_not_isOperand rfl _

theorem Pending.opening_not_mem (p : Pending) : .opening ∉ p.items := by
  obtain ⟨disjunct, conjunct, negations⟩ := p
  cases disjunct <;> cases conjunct <;> simp [Pending.items, waiting]

theorem Innermost.opening_not_mem (i : Innermost) : .opening ∉ i.items := by
  cases i with
  | pending p => exact p.opening_not_mem
  | complete disjunct a => cases disjunct <;> simp [Innermost.items, waiting]

/-- Between the parentheses stand the levels. -/
theorem Shape.splitOn_items (s : Shape) :
    s.items.splitOn .opening = s.outer.map Pending.items ++ [s.innermost.items] := by
  have other : ∀ {items : List StackItem}, .opening ∉ items →
      ∀ item ∈ items, (item == StackItem.opening) = false := by
    intro items absent item member
    rw [beq_eq_false_iff_ne]
    rintro rfl
    exact absent member
  obtain ⟨outer, innermost⟩ := s
  rw [List.splitOn_eq_splitOnP]
  induction outer with
  | nil => exact List.splitOnP_eq_singleton (other innermost.opening_not_mem)
  | cons p outer ih =>
    rw [Shape.items, outerItems_cons,
      List.splitOnP_append_cons_of_forall_mem (other p.opening_not_mem) _ (beq_self_eq_true _)]
    exact congrArg (p.items :: ·) ih

theorem Pending.binary_sublist (p : Pending) :
    (p.items.filter StackItem.isBinary).Sublist [.disj, .conj] := by
  obtain ⟨disjunct, conjunct, negations⟩ := p
  cases disjunct <;> cases conjunct <;>
    simp [Pending.items, waiting, List.filter_cons, StackItem.isBinary]

theorem Innermost.binary_sublist (i : Innermost) :
    (i.items.filter StackItem.isBinary).Sublist [.disj, .conj] := by
  cases i with
  | pending p => exact p.binary_sublist
  | complete disjunct a =>
    cases disjunct <;> simp [Innermost.items, waiting, List.filter_cons, StackItem.isBinary]

theorem Shape.binary_sublist (s : Shape) :
    ∀ level ∈ s.items.splitOn .opening,
      (level.filter StackItem.isBinary).Sublist [.disj, .conj] := by
  intro level member
  rw [s.splitOn_items, List.mem_append, List.mem_map, List.mem_singleton] at member
  rcases member with ⟨p, _, rfl⟩ | rfl
  · exact p.binary_sublist
  · exact s.innermost.binary_sublist

/-- Disjunctions are applied at the top until there is none; counted are those that are applied. -/
inductive CollapsesIn : Nat → OperandStack → OperandStack → Prop where
  | done {stack : OperandStack} :
      (∀ b a below, stack ≠ .operand b :: .disj :: .operand a :: below) →
        CollapsesIn 0 stack stack
  | applied {n : Nat} {a b : Formula} {below last : OperandStack} :
      CollapsesIn n (.operand (.disj a b) :: below) last →
        CollapsesIn (n + 1) (.operand b :: .disj :: .operand a :: below) last

theorem Fits.collapsesIn_zero {level : Grammar.Level} {stack : OperandStack}
    (fits : Fits level stack) : CollapsesIn 0 stack stack.collapse := by
  rw [fits.collapse_eq]
  apply CollapsesIn.done
  rintro b a below rfl
  cases fits.topIsOperand

theorem Fits.collapsesIn_operand {stack : OperandStack} (fits : Fits .term stack) (a : Formula) :
    CollapsesIn 0 (.operand a :: stack) (collapse (.operand a :: stack)) := by
  rw [fits.collapse_operand]
  apply CollapsesIn.done
  intro b c below same
  cases same
  cases fits

/-- A term can start where all levels are closed off. -/
theorem fits_outerItems (outer : List Pending) : Fits .term (outerItems outer).reverse := by
  rcases outer.eq_nil_or_concat' with rfl | ⟨others, p, rfl⟩
  · exact .bottom
  · rw [outerItems_concat, List.reverse_append]
    exact .opening _

theorem Pending.fits (p : Pending) (outer : List Pending) :
    Fits .factor (outerItems outer ++ p.items).reverse := by
  apply Fits.factor
  obtain ⟨disjunct, conjunct, _ | negations⟩ := p
  · cases conjunct with
    | some b => simp [Pending.items, waiting, topIsOperand]
    | none =>
      cases disjunct with
      | some a => simp [Pending.items, waiting, topIsOperand]
      | none => simpa [Pending.items, waiting] using (fits_outerItems outer).topIsOperand
  · simp [Pending.items, List.replicate_succ', topIsOperand]

theorem Shape.collapsesIn (s : Shape) :
    ∃ n, n ≤ 1 ∧ CollapsesIn n s.items.reverse (collapse s.items.reverse) := by
  obtain ⟨outer, p | ⟨disjunct, a⟩⟩ := s
  · exact ⟨0, Nat.zero_le 1, (p.fits outer).collapsesIn_zero⟩
  · have outside := fits_outerItems outer
    cases disjunct with
    | none =>
      refine ⟨0, Nat.zero_le 1, ?_⟩
      simpa [Shape.items, Innermost.items, waiting] using outside.collapsesIn_operand a
    | some d =>
      refine ⟨1, Nat.le_refl 1, ?_⟩
      have applied := (outside.collapsesIn_operand (.disj d a)).applied
      rw [← collapse_disj] at applied
      simpa [Shape.items, Innermost.items, waiting] using applied

end OperandStack

namespace Cursor

/-- The turns of the loop that reads a term: the stack and the cursor with which each one starts. -/
inductive Turn (c : Cursor) : OperandStack → Cursor → Prop where
  | first : Turn c [] c
  | next {stack shifted : OperandStack} {d after : Cursor} {t : Token} : Turn c stack d →
      d.sight = .token t after → t.endsTerm = false → stack.shift t = .ok shifted →
        Turn c shifted after

theorem Turn.exists_represents {c d : Cursor} {stack : OperandStack} (turn : c.Turn stack d) :
    ∃ ts, OperandStack.Represents ts stack := by
  induction turn with
  | first => exact ⟨[], .awaiting (.product (.term .start))⟩
  | @next _ _ _ _ t _ _ _ shifted ih =>
    obtain ⟨ts, represents⟩ := ih
    exact ⟨ts ++ [t], represents.shift shifted⟩

theorem Turn.readOperands_eq {c d : Cursor} {stack : OperandStack} (turn : c.Turn stack d) :
    c.readOperands [] = d.readOperands stack := by
  induction turn with
  | first => rfl
  | next _ seen inside shifted ih =>
    rw [ih, readOperands_of_token seen, inside, shifted]
    rfl

/-- At every turn of the loop that reads a term, the stack has a shape. So no operand lies directly
on a negation or a conjunction; on the level of each parenthesis wait at most one disjunction and
at most one conjunction, in this order from the bottom up; and when the disjunctions at the top are
applied there is at most one. -/
theorem stack_shaped_at_turn {c d : Cursor} {stack : OperandStack} (turn : c.Turn stack d) :
    c.readOperands [] = d.readOperands stack ∧
    (∃ shape : OperandStack.Shape, shape.items = stack.reverse) ∧
    (stack.reverse.IsChain fun lower upper =>
      upper.isOperand = true → lower ≠ .neg ∧ lower ≠ .conj) ∧
    (∀ level ∈ stack.reverse.splitOn .opening,
      (level.filter StackItem.isBinary).Sublist [.disj, .conj]) ∧
    ∃ n, n ≤ 1 ∧ OperandStack.CollapsesIn n stack stack.collapse := by
  obtain ⟨ts, represents⟩ := turn.exists_represents
  obtain ⟨shape, same⟩ := represents.exists_shape
  refine ⟨turn.readOperands_eq, ⟨shape, same⟩, ?_, ?_, ?_⟩
  · rw [← same]
    exact shape.isChain_items
  · rw [← same]
    exact shape.binary_sublist
  · have collapses := shape.collapsesIn
    rwa [same, List.reverse_reverse] at collapses

/-- A disjunction in a parenthesis that is not closed yet. -/
def openDisjunction : OperandStack :=
  [.operand (.var "B"), .disj, .operand (.var "A"), .opening, .neg]

theorem stack_shaped_at_openDisjunction :
    (ofString "¬(A∨B").Turn openDisjunction ⟨5, []⟩ ∧
      ∃ n, n ≤ 1 ∧ OperandStack.CollapsesIn n openDisjunction openDisjunction.collapse := by
  have negated : (ofString "¬(A∨B").Turn [.neg] ⟨1, ['(', 'A', '∨', 'B']⟩ :=
    .next (t := .glyph .neg) .first (by decide) rfl rfl
  have opened : (ofString "¬(A∨B").Turn [.opening, .neg] ⟨2, ['A', '∨', 'B']⟩ :=
    .next (t := .opening) negated (by decide) rfl rfl
  have left : (ofString "¬(A∨B").Turn [.operand (.var "A"), .opening, .neg] ⟨3, ['∨', 'B']⟩ := by
    refine .next (t := .name "A") opened (by decide) rfl ?_
    exact congrArg Except.ok (OperandStack.Fits.reduce_operand (.term (.opening [.neg])) _)
  have joined : (ofString "¬(A∨B").Turn [.disj, .operand (.var "A"), .opening, .neg]
      ⟨4, ['B']⟩ := by
    refine .next (t := .glyph .disj) left (by decide) rfl ?_
    exact congrArg (fun below => Except.ok (.disj :: below))
      (OperandStack.Fits.collapse_operand (.opening [.neg]) _)
  have turn : (ofString "¬(A∨B").Turn openDisjunction ⟨5, []⟩ := by
    refine .next (t := .name "B") joined (by decide) rfl ?_
    exact congrArg Except.ok (OperandStack.Fits.reduce_operand (.disj _) _)
  exact ⟨turn, (stack_shaped_at_turn turn).2.2.2.2⟩

end Cursor

end Turnstile

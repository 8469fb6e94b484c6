import Turnstile.Proofs.Queries

/-! Outlines tell trees apart. Without its labels a tree is known from the entries of its outline,
each a sequent or a failure on some level: what stands below a node ends where the next entry is no
deeper than the node. And an entry is known from its line, because a rendered sequent starts with no
blank, holds no tick, and is not the word for a failure. -/
namespace Turnstile

namespace ProofTree

variable {σ ρ : Type}

/-- The tree without its labels. -/
def unlabelled (t : ProofTree σ ρ) : ProofTree σ Unit :=
  t.map id fun _ => ()

/-- What a line of an outline shows if it shows no label. -/
inductive Entry (σ : Type) where
  | fail
  | node (sequent : σ) (closed : Bool)
  deriving DecidableEq, Repr

def Entry.line (text : σ → String) : Entry σ → String
  | fail => "Fail"
  | node s true => text s ++ "  ✓"
  | node s false => text s

/-- The entries of an outline with their levels. -/
def entries (level : Nat) : ProofTree σ ρ → List (Nat × Entry σ)
  | closed s _ => [(level, .node s true)]
  | failed s _ => [(level, .node s false), (level + 1, .fail)]
  | single s _ t => (level, .node s false) :: t.entries (level + 1)
  | double s _ t u => (level, .node s false) :: (t.entries (level + 1) ++ u.entries (level + 1))

theorem outlineLines_eq_entries (text : σ → String) (t : ProofTree σ ρ) (level : Nat) :
    (t.map text id).outlineLines (fun _ => none) level =
      (t.entries level).map fun e => indent e.1 (e.2.line text) := by
  induction t generalizing level with
  | closed s l => rfl
  | failed s l => rfl
  | single s l t ih =>
    rw [map, outlineLines, entries, List.map_cons, ih]
    rfl
  | double s l t u first second =>
    rw [map, outlineLines, entries, List.map_cons, List.map_append, first, second]
    rfl

theorem entries_unlabelled (t : ProofTree σ ρ) (level : Nat) :
    t.unlabelled.entries level = t.entries level := by
  induction t generalizing level with
  | closed s l => rfl
  | failed s l => rfl
  | single s l t ih => exact congrArg (_ :: ·) (ih _)
  | double s l t u first second => exact congrArg (_ :: ·) (congrArg₂ (· ++ ·) (first _) (second _))

/-- Entries that go on no deeper than on the given level. -/
def Surfaces (level : Nat) (rest : List (Nat × Entry σ)) : Prop :=
  ∀ e, rest.head? = some e → e.1 ≤ level

theorem Surfaces.deeper {level : Nat} {rest : List (Nat × Entry σ)}
    (surfaces : Surfaces level rest) : Surfaces (level + 1) rest := by
  intro e head
  exact Nat.le_succ_of_le (surfaces e head)

/-- The entries of a tree start on its own level, with its own sequent. -/
theorem exists_entries_cons (t : ProofTree σ ρ) (level : Nat) :
    ∃ closed below, t.entries level = (level, .node t.sequent closed) :: below := by
  cases t with
  | closed s l => exact ⟨_, _, rfl⟩
  | failed s l => exact ⟨_, _, rfl⟩
  | single s l t => exact ⟨_, _, rfl⟩
  | double s l t u => exact ⟨_, _, rfl⟩

theorem surfaces_entries (t : ProofTree σ ρ) (level : Nat) (rest : List (Nat × Entry σ)) :
    Surfaces level (t.entries level ++ rest) := by
  obtain ⟨closed, below, entries⟩ := t.exists_entries_cons level
  intro e head
  rw [entries] at head
  cases head
  exact Nat.le_refl level

/-- What does not go on deeper than a node does not start with something below it. -/
theorem Surfaces.ne_entries {level : Nat} {rest more : List (Nat × Entry σ)}
    (surfaces : Surfaces level rest) (t : ProofTree σ ρ) :
    rest ≠ t.entries (level + 1) ++ more := by
  obtain ⟨closed, below, entries⟩ := t.exists_entries_cons (level + 1)
  rintro rfl
  have bound := surfaces (level + 1, .node t.sequent closed) (by rw [entries]; rfl)
  omega

theorem fail_ne_entries {level : Nat} {rest more : List (Nat × Entry σ)} (t : ProofTree σ ρ) :
    (level + 1, .fail) :: rest ≠ t.entries (level + 1) ++ more := by
  obtain ⟨closed, below, entries⟩ := t.exists_entries_cons (level + 1)
  rw [entries]
  intro same
  cases same

/-- The entries of a tree determine the tree and where its entries end, whatever follows on its
level or above it. -/
theorem entries_append_inj {t u : ProofTree σ Unit} {level : Nat} {rest more : List (Nat × Entry σ)}
    (behind : Surfaces level rest) (beyond : Surfaces level more)
    (same : t.entries level ++ rest = u.entries level ++ more) : t = u ∧ rest = more := by
  -- The first entries agree, and the rest is what stands below the two roots, with what follows.
  induction t generalizing u level rest more with
  | closed s l =>
    cases u with
    | closed s' l' =>
      cases same
      exact ⟨rfl, rfl⟩
    | failed s' l' => cases same
    | single s' l' u => cases same
    | double s' l' u v => cases same
  | failed s l =>
    cases u with
    | closed s' l' => cases same
    | failed s' l' =>
      cases same
      exact ⟨rfl, rfl⟩
    | single s' l' u =>
      simp only [entries, List.cons_append, List.nil_append, List.cons.injEq] at same
      exact (fail_ne_entries u same.2).elim
    | double s' l' u v =>
      simp only [entries, List.cons_append, List.nil_append, List.append_assoc,
        List.cons.injEq] at same
      exact (fail_ne_entries u same.2).elim
  | single s l t ih =>
    cases u with
    | closed s' l' => cases same
    | failed s' l' =>
      simp only [entries, List.cons_append, List.nil_append, List.cons.injEq] at same
      exact (fail_ne_entries t same.2.symm).elim
    | single s' l' u =>
      simp only [entries, List.cons_append, List.cons.injEq] at same
      obtain ⟨here, below⟩ := same
      cases here
      obtain ⟨rfl, rfl⟩ := ih behind.deeper beyond.deeper below
      exact ⟨rfl, rfl⟩
    | double s' l' u v =>
      simp only [entries, List.cons_append, List.append_assoc, List.cons.injEq] at same
      obtain ⟨_, further⟩ := ih behind.deeper (surfaces_entries v _ _) same.2
      exact (behind.ne_entries v further).elim
  | double s l t w first second =>
    cases u with
    | closed s' l' => cases same
    | failed s' l' =>
      simp only [entries, List.cons_append, List.nil_append, List.append_assoc,
        List.cons.injEq] at same
      exact (fail_ne_entries t same.2.symm).elim
    | single s' l' u =>
      simp only [entries, List.cons_append, List.append_assoc, List.cons.injEq] at same
      obtain ⟨_, further⟩ := first (surfaces_entries w _ _) beyond.deeper same.2
      exact (beyond.ne_entries w further.symm).elim
    | double s' l' u v =>
      simp only [entries, List.cons_append, List.append_assoc, List.cons.injEq] at same
      obtain ⟨here, below⟩ := same
      cases here
      obtain ⟨rfl, further⟩ := first (surfaces_entries w _ _) (surfaces_entries v _ _) below
      obtain ⟨rfl, rfl⟩ := second behind.deeper beyond.deeper further
      exact ⟨rfl, rfl⟩

end ProofTree

namespace Text

/-- A text that starts with a character other than a blank. -/
def StartsVisibly (text : String) : Prop :=
  ∃ c rest, text.toList = c :: rest ∧ c ≠ ' '

theorem StartsVisibly.append {text : String} (starts : StartsVisibly text) (more : String) :
    StartsVisibly (text ++ more) := by
  obtain ⟨c, rest, chars, visible⟩ := starts
  exact ⟨c, rest ++ more.toList, by simp [chars], visible⟩

theorem StartsVisibly.intercalate {text : String} (starts : StartsVisibly text) (separator : String)
    (others : List String) : StartsVisibly (separator.intercalate (text :: others)) := by
  cases others with
  | nil => simpa using starts
  | cons next others =>
    rw [String.intercalate_cons_cons]
    exact (starts.append separator).append _

end Text

open Text

theorem Glyphs.Readable.startsVisibly_spell {g : Glyphs} (readable : g.Readable) {x : Glyph}
    (visible : x ≠ .empty) : StartsVisibly (g.spell x) := by
  obtain ⟨c, spelled, written⟩ := readable.exists_char visible
  refine ⟨c, [], by simp [spelled], ?_⟩
  rintro rfl
  cases (Token.ofChar?_eq_some written).1

namespace Formula

theorem startsVisibly_enclose {text : String} (starts : StartsVisibly text) (outermost : Bool) :
    StartsVisibly (enclose outermost text) := by
  cases outermost with
  | true => exact starts
  | false =>
    have opening : StartsVisibly "(" := ⟨'(', [], rfl, by decide⟩
    exact (opening.append text).append ")"

theorem startsVisibly_render {g : Glyphs} (readable : g.Readable) {a : Formula}
    (named : ∀ n ∈ a.names, IsName n) (outermost : Bool) :
    StartsVisibly (a.render g outermost) := by
  induction a generalizing outermost with
  | var n =>
    obtain ⟨first, rest, chars, starts, _⟩ := named n (by simp [names])
    refine ⟨first, rest, chars, ?_⟩
    rintro rfl
    cases starts
  | neg a =>
    have symbol : StartsVisibly (g.spell .neg) := readable.startsVisibly_spell (by decide)
    exact startsVisibly_enclose (symbol.append _) outermost
  | conj a b first | disj a b first =>
    have left := first (fun n member => named n (by simp [names, member])) false
    exact startsVisibly_enclose ((((left.append _).append _).append _).append _) outermost

end Formula

namespace Sequent

variable {g : Glyphs}

theorem startsVisibly_renderSide (readable : g.Readable) {side : List Formula}
    (named : ∀ a ∈ side, ∀ n ∈ a.names, IsName n) :
    renderSide g side = "" ∨ StartsVisibly (renderSide g side) := by
  cases side with
  | nil =>
    rcases readable.empty with same | same
    · refine .inr ⟨Glyph.empty.char, [], ?_, by decide⟩
      rw [renderSide, same]
      rfl
    · exact .inl same
  | cons a others =>
    have first := Formula.startsVisibly_render readable (named a (by simp)) true
    exact .inr (first.intercalate ", " _)

/-- Leaving out what is written as nothing leaves no blank in front. -/
theorem startsVisibly_joinParts {parts : List String}
    (visible : ∀ part ∈ parts, part = "" ∨ StartsVisibly part)
    (written : ∃ part ∈ parts, part ≠ "") : StartsVisibly (joinParts parts) := by
  unfold joinParts
  cases kept : parts.filter (· ≠ "") with
  | nil =>
    obtain ⟨part, member, other⟩ := written
    have inside : part ∈ parts.filter (· ≠ "") := List.mem_filter.mpr ⟨member, by simpa using other⟩
    rw [kept] at inside
    cases inside
  | cons part others =>
    have inside : part ∈ parts.filter (· ≠ "") := kept ▸ List.mem_cons_self
    obtain ⟨member, other⟩ := List.mem_filter.mp inside
    have starts := (visible part member).resolve_left (by simpa using other)
    exact starts.intercalate " " others

theorem startsVisibly_render (readable : g.Readable) {s : Sequent}
    (named : ∀ n ∈ s.names, IsName n) : StartsVisibly (s.render g) := by
  obtain ⟨left, right⟩ := s
  simp only [names, List.mem_append, List.mem_flatMap] at named
  have turnstile : StartsVisibly (g.spell .turnstile) := readable.startsVisibly_spell (by decide)
  apply startsVisibly_joinParts
  · simp only [List.mem_cons, List.not_mem_nil, or_false, forall_eq_or_imp, forall_eq]
    refine ⟨startsVisibly_renderSide readable ?_, .inr turnstile,
      startsVisibly_renderSide readable ?_⟩
    · exact fun a member n inside => named n (.inl ⟨a, member, inside⟩)
    · exact fun a member n inside => named n (.inr ⟨a, member, inside⟩)
  · refine ⟨g.spell .turnstile, by simp, ?_⟩
    intro nothing
    obtain ⟨c, rest, chars, _⟩ := turnstile
    simp [nothing] at chars

end Sequent

namespace ProofTree

variable {σ ρ : Type}

/-- The indentation of a line is known where the line itself starts visibly. -/
theorem indent_inj {n m : Nat} {p q : String} (first : StartsVisibly p) (second : StartsVisibly q)
    (same : indent n p = indent m q) : n = m ∧ p = q := by
  have outside {text : String} (starts : StartsVisibly text) :
      ∀ c, text.toList.head? = some c → (c == ' ') = false := by
    obtain ⟨c, rest, chars, visible⟩ := starts
    rw [chars]
    rintro d ⟨⟩
    simpa using visible
  have chars := congrArg String.toList same
  simp only [indent, String.toList_append, String.toList_ofList] at chars
  obtain ⟨blanks, texts⟩ := run_inj (· == ' ') (by simp) (outside first) (by simp)
    (outside second) chars
  have lengths := congrArg List.length blanks
  simp only [List.length_replicate] at lengths
  exact ⟨by omega, String.toList_inj.mp texts⟩

/-- Texts for sequents of a kind, such that each can be told from the others, from one with a tick
behind it, and from the word for a failure. -/
structure Telling (text : σ → String) (kind : σ → Prop) : Prop where
  starts : ∀ s, kind s → StartsVisibly (text s)
  unticked : ∀ s, kind s → '✓' ∉ (text s).toList
  unfailed : ∀ s, kind s → text s ≠ "Fail"
  inj : ∀ s t, kind s → kind t → text s = text t → s = t

/-- Whether an entry shows nothing but a sequent of a kind. -/
def Entry.Shows (kind : σ → Prop) : Entry σ → Prop
  | fail => True
  | node s _ => kind s

theorem shows_entries {kind : σ → Prop} {t : ProofTree σ ρ} (all : ∀ n ∈ t.walk, kind n.sequent)
    (level : Nat) : ∀ e ∈ t.entries level, e.2.Shows kind := by
  induction t generalizing level with
  | closed s l => simpa [entries, Entry.Shows, walk, sequent] using all
  | failed s l => simpa [entries, Entry.Shows, walk, sequent] using all
  | single s l t ih =>
    obtain ⟨here, below⟩ := List.forall_mem_cons.mp all
    exact List.forall_mem_cons.mpr ⟨here, ih below _⟩
  | double s l t u first second =>
    obtain ⟨here, below⟩ := List.forall_mem_cons.mp all
    obtain ⟨left, right⟩ := List.forall_mem_append.mp below
    exact List.forall_mem_cons.mpr
      ⟨here, List.forall_mem_append.mpr ⟨first left _, second right _⟩⟩

namespace Telling

variable {text : σ → String} {kind : σ → Prop} (telling : Telling text kind)

include telling

theorem startsVisibly_line {e : Entry σ} (shows : e.Shows kind) : StartsVisibly (e.line text) := by
  cases e with
  | fail => exact ⟨'F', ['a', 'i', 'l'], by simp [Entry.line], by decide⟩
  | node s closed =>
    cases closed with
    | true => exact (telling.starts s shows).append _
    | false => exact telling.starts s shows

/-- A tick is seen on the lines of closed sequents only. -/
theorem tick_mem_line_iff {e : Entry σ} (shows : e.Shows kind) :
    '✓' ∈ (e.line text).toList ↔ ∃ s, e = .node s true := by
  cases e with
  | fail => simp [Entry.line]
  | node s closed =>
    cases closed with
    | true => simp [Entry.line]
    | false => simpa [Entry.line] using telling.unticked s shows

theorem line_inj {e f : Entry σ} (showsFirst : e.Shows kind) (showsSecond : f.Shows kind)
    (same : e.line text = f.line text) : e = f := by
  have ticks := (telling.tick_mem_line_iff showsFirst).symm.trans
    ((iff_of_eq (congrArg ('✓' ∈ ·.toList) same)).trans (telling.tick_mem_line_iff showsSecond))
  cases e with
  | fail =>
    cases f with
    | fail => rfl
    | node s closed =>
      cases closed with
      | true => simp at ticks
      | false => exact (telling.unfailed s showsSecond same.symm).elim
  | node s closed =>
    cases f with
    | fail =>
      cases closed with
      | true => simp at ticks
      | false => exact (telling.unfailed s showsFirst same).elim
    | node s' closed' =>
      obtain rfl : closed = closed' := by
        cases closed <;> cases closed' <;> simp at ticks ⊢
      have texts : text s = text s' := by
        cases closed <;> simpa [Entry.line] using same
      rw [telling.inj s s' showsFirst showsSecond texts]

/-- Two outlines without labels are the same exactly if the trees are, labels apart. -/
theorem outlineLines_eq_iff {t u : ProofTree σ ρ} (first : ∀ n ∈ t.walk, kind n.sequent)
    (second : ∀ n ∈ u.walk, kind n.sequent) :
    (t.map text id).outlineLines (fun _ => none) 0 =
        (u.map text id).outlineLines (fun _ => none) 0 ↔
      t.unlabelled = u.unlabelled := by
  rw [outlineLines_eq_entries, outlineLines_eq_entries]
  constructor
  · intro same
    have lengths : (t.entries 0).length = (u.entries 0).length := by
      simpa using congrArg List.length same
    have entries : t.entries 0 = u.entries 0 := by
      apply List.ext_getElem lengths
      intro i left right
      have showsFirst := shows_entries first 0 _ (List.getElem_mem left)
      have showsSecond := shows_entries second 0 _ (List.getElem_mem right)
      have lines := List.getElem_of_eq same (by simpa using left)
      simp only [List.getElem_map] at lines
      obtain ⟨levels, texts⟩ := indent_inj (telling.startsVisibly_line showsFirst)
        (telling.startsVisibly_line showsSecond) lines
      exact Prod.ext levels (telling.line_inj showsFirst showsSecond texts)
    have ended : Surfaces 0 ([] : List (Nat × Entry σ)) := by simp [Surfaces]
    have whole : t.unlabelled.entries 0 ++ [] = u.unlabelled.entries 0 ++ [] := by
      rw [entries_unlabelled, entries_unlabelled, entries]
    exact (entries_append_inj ended ended whole).1
  · intro same
    rw [← entries_unlabelled t, ← entries_unlabelled u, same]

end Telling

end ProofTree

/-- What is rendered can be read back, and nothing that is read holds a tick or is a mere word. -/
theorem Sequent.telling_render {g : Glyphs} (readable : g.Readable) :
    ProofTree.Telling (·.render g) fun s : Sequent => ∀ n ∈ s.names, IsName n where
  starts s named := startsVisibly_render readable named
  unticked s named := by
    obtain ⟨ts, writes, _⟩ := exists_writes_render readable named
    exact writes.spells.not_mem ⟨by decide, by decide, by decide, by decide⟩
  unfailed s named := by
    intro same
    have parsed := parse_render readable named
    have refused : parse "Fail" = .error ⟨.commaOrTurnstileExpected, 4⟩ := by decide +kernel
    rw [same] at parsed
    cases refused.symm.trans parsed
  inj s t first second same := by
    have parsed := parse_render readable first
    rw [same] at parsed
    exact Except.ok.inj (parsed.symm.trans (parse_render readable second))

namespace Derivation

/-- An outline without labels shows all of a tree but its labels, in either set of glyphs: wherever
all names can be read, two trees have the same outline exactly if they are the same without their
labels. -/
theorem outline_unambiguous :
    Glyphs.unicode.Readable ∧ Glyphs.ascii.Readable ∧ ∀ g : Glyphs, g.Readable →
      ∀ d e : Derivation, (∀ n ∈ d.walk, ∀ v ∈ n.sequent.names, IsName v) →
        (∀ n ∈ e.walk, ∀ v ∈ n.sequent.names, IsName v) →
          ((d.map (·.render g) id).outline (fun _ => none) =
              (e.map (·.render g) id).outline (fun _ => none) ↔
            d.unlabelled = e.unlabelled) := by
  refine ⟨Glyphs.unicode_readable, Glyphs.ascii_readable, ?_⟩
  intro g readable d e first second
  have telling := Sequent.telling_render readable
  rw [← telling.outlineLines_eq_iff first second]
  constructor
  · intro same
    have unbroken {t : Derivation} (named : ∀ n ∈ t.walk, ∀ v ∈ n.sequent.names, IsName v) :
        ∀ n ∈ t.walk, ∀ c ∈ (n.sequent.render g).toList, (c == '\n') = false := by
      intro n member c inside
      obtain ⟨ts, writes, _⟩ := Sequent.exists_writes_render readable (named n member)
      refine beq_eq_false_iff_ne.mpr ?_
      rintro rfl
      exact writes.spells.unbroken.1 inside
    have plain : ∀ c ∈ ProofTree.decoration, (c == '\n') = false := by simp [ProofTree.decoration]
    have linesFirst := ProofTree.splitOnP_outline _ rfl plain (unbroken first)
    have linesSecond := ProofTree.splitOnP_outline _ rfl plain (unbroken second)
    rw [same, linesSecond] at linesFirst
    exact ((List.map_inj_right fun _ _ => String.toList_inj.mp).mp linesFirst).symm
  · intro same
    rw [ProofTree.outline, same, ProofTree.outline]

/-- The same sequents in the same order, with the fork on the first level or on the second: only the
indentation of the last line tells the trees apart. -/
theorem outline_tells_forks_apart :
    ∃ d e : Derivation, d.walk.map (·.sequent) = e.walk.map (·.sequent) ∧
      (∀ n ∈ d.walk ++ e.walk, ∀ v ∈ n.sequent.names, IsName v) ∧
      (d.map (·.render .ascii) id).outline (fun _ => none) ≠
        (e.map (·.render .ascii) id).outline (fun _ => none) := by
  have apart (d e : Derivation)
      (known : ∀ n ∈ d.walk ++ e.walk, ∀ v ∈ n.sequent.names, v = "A" ∨ v = "B")
      (other : d.unlabelled ≠ e.unlabelled) :
      (∀ n ∈ d.walk ++ e.walk, ∀ v ∈ n.sequent.names, IsName v) ∧
        (d.map (·.render .ascii) id).outline (fun _ => none) ≠
          (e.map (·.render .ascii) id).outline (fun _ => none) := by
    have named : ∀ n ∈ d.walk ++ e.walk, ∀ v ∈ n.sequent.names, IsName v := by
      intro n member v inside
      rcases known n member v inside with rfl | rfl
      · exact ⟨'A', [], by decide, by decide, by decide⟩
      · exact ⟨'B', [], by decide, by decide, by decide⟩
    obtain ⟨first, second⟩ := List.forall_mem_append.mp named
    refine ⟨named, ?_⟩
    intro same
    exact other ((outline_unambiguous.2.2 .ascii Glyphs.ascii_readable d e first second).mp same)
  exact ⟨.double ⟨[.disj (.var "A") (.var "B")], []⟩ none
      (.single ⟨[.var "A"], []⟩ none (.closed ⟨[.var "B"], []⟩ none))
      (.closed ⟨[.var "B"], []⟩ none),
    .single ⟨[.disj (.var "A") (.var "B")], []⟩ none
      (.double ⟨[.var "A"], []⟩ none (.closed ⟨[.var "B"], []⟩ none)
        (.closed ⟨[.var "B"], []⟩ none)),
    by decide +kernel, apart _ _ (by decide +kernel) (by decide +kernel)⟩

end Derivation

end Turnstile

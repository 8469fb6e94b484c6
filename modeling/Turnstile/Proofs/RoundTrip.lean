import Turnstile.Proofs.Reading

/-! Writing and reading back. A rendering spells tokens that the grammar gives the meaning of
what was rendered, so reading it returns the same formula or sequent, whichever of its two
spellings every symbol has. -/
namespace Turnstile

open Grammar

/-- Every symbol is spelled by its character or by its alias, and an empty side by its
character or as nothing. -/
structure Glyphs.Readable (g : Glyphs) : Prop where
  symbol : ∀ x, x ≠ .empty →
    g.spell x = x.symbol ∨ ∃ c, x.alias? = some c ∧ g.spell x = String.singleton c
  empty : g.spell .empty = Glyph.empty.symbol ∨ g.spell .empty = ""

theorem Glyphs.unicode_readable : Glyphs.unicode.Readable :=
  ⟨fun _ _ => .inl rfl, .inl rfl⟩

theorem Glyphs.ascii_readable : Glyphs.ascii.Readable := by
  refine ⟨fun x visible => .inr ?_, .inr rfl⟩
  cases x with
  | empty => exact (visible rfl).elim
  | turnstile | neg | conj | disj => exact ⟨_, rfl, rfl⟩

theorem GlyphTable.covering_ofGlyphs (g : Glyphs) (needed : List Glyph) :
    (GlyphTable.ofGlyphs g).covering needed = .ok g := by
  have total : needed.find? (fun x => ((GlyphTable.ofGlyphs g).spell? x).isNone) = none := by
    simp [GlyphTable.ofGlyphs]
  rw [covering, total]
  rfl

theorem Glyph.ofChar?_char (x : Glyph) : Token.ofChar? x.char = some (.glyph x) := by
  cases x <;> decide

theorem Glyph.ofChar?_alias {x : Glyph} {c : Char} (spelled : x.alias? = some c) :
    Token.ofChar? c = some (.glyph x) := by
  cases x <;> cases spelled <;> decide

theorem Glyphs.Readable.exists_char {g : Glyphs} (readable : g.Readable) {x : Glyph}
    (visible : x ≠ .empty) :
    ∃ c, g.spell x = String.singleton c ∧ Token.ofChar? c = some (.glyph x) := by
  rcases readable.symbol x visible with same | ⟨c, spelled, same⟩
  · exact ⟨x.char, same, x.ofChar?_char⟩
  · exact ⟨c, same, Glyph.ofChar?_alias spelled⟩

namespace Grammar

/-- A text that is read as some tokens wherever neither a letter nor a digit follows it. -/
def Writes (text : String) (ts : List Token) : Prop :=
  ∀ rest us, Bounded rest → Spells rest us → Spells (text.toList ++ rest) (ts ++ us)

namespace Writes

variable {p q : String} {ts us : List Token}

theorem spells (writes : Writes p ts) : Spells p.toList ts := by
  simpa using writes [] [] nofun .done

theorem nothing : Writes "" [] := by
  intro rest us _ spells
  simpa using spells

theorem eq_nil (writes : Writes "" ts) : ts = [] := by
  cases writes.spells
  rfl

theorem name {n : String} (isName : IsName n) : Writes n [.name n] := by
  obtain ⟨first, word, chars, starts, continues⟩ := isName
  intro rest us bounded spells
  have spelled := Spells.name starts (List.all_eq_true.mp continues) bounded spells
  rw [← chars, String.ofList_toList] at spelled
  simpa [chars] using spelled

theorem mark {c : Char} {t : Token} (written : Token.ofChar? c = some t) (writes : Writes p ts) :
    Writes (String.singleton c ++ p) (t :: ts) := by
  intro rest us bounded spells
  simpa using Spells.mark written (writes rest us bounded spells)

theorem blank (writes : Writes p ts) : Writes (" " ++ p) ts := by
  intro rest us bounded spells
  simpa using Spells.blank rfl (writes rest us bounded spells)

/-- The text that follows must not go on with a name that the first one may end in. -/
theorem append (first : Writes p ts) (second : Writes q us) (apart : Bounded q.toList) :
    Writes (p ++ q) (ts ++ us) := by
  intro rest vs bounded spells
  have outer : Bounded (q.toList ++ rest) := by
    intro c head
    cases chars : q.toList with
    | nil => exact bounded c (by simpa [chars] using head)
    | cons d tail => exact apart c (by simpa [chars] using head)
  simpa using first _ _ outer (second rest vs bounded spells)

theorem append_blank (first : Writes p ts) (second : Writes q us) :
    Writes (p ++ (" " ++ q)) (ts ++ us) :=
  first.append second.blank (by simpa using bounded_cons (c := ' ') rfl q.toList)

theorem append_mark {c : Char} {t : Token} (first : Writes p ts)
    (written : Token.ofChar? c = some t) (second : Writes q us) :
    Writes (p ++ (String.singleton c ++ q)) (ts ++ t :: us) := by
  obtain ⟨_, _, apart⟩ := Token.ofChar?_eq_some written
  exact first.append (second.mark written) (by simpa using bounded_cons apart q.toList)

theorem parenthesized (writes : Writes p ts) :
    Writes ("(" ++ p ++ ")") (.opening :: (ts ++ [.closing])) := by
  have inner := writes.append_mark (rfl : Token.ofChar? ')' = some .closing) .nothing
  have outer := inner.mark (rfl : Token.ofChar? '(' = some .opening)
  have same : "(" ++ p ++ ")" = String.singleton '(' ++ (p ++ (String.singleton ')' ++ "")) := by
    simp [← String.toList_inj]
  exact same ▸ outer

theorem comma (first : Writes p ts) (second : Writes q us) :
    Writes (p ++ ", " ++ q) (ts ++ .comma :: us) := by
  have joined := first.append_mark (rfl : Token.ofChar? ',' = some .comma) second.blank
  have same : p ++ ", " ++ q = p ++ (String.singleton ',' ++ (" " ++ q)) := by
    simp [← String.toList_inj]
  exact same ▸ joined

theorem binary {g : Glyphs} (readable : g.Readable) {x : Glyph} (visible : x ≠ .empty)
    (first : Writes p ts) (second : Writes q us) :
    Writes (p ++ " " ++ g.spell x ++ " " ++ q) (ts ++ .glyph x :: us) := by
  obtain ⟨c, spelled, written⟩ := readable.exists_char visible
  have joined := first.append_blank (second.blank.mark written)
  rw [spelled]
  simpa only [String.append_assoc] using joined

end Writes

end Grammar

namespace Formula

/-- The level of phrase that a rendering is written as. -/
def renderLevel (outermost : Bool) : Level :=
  if outermost then .term else .factor

variable {g : Glyphs}

theorem exists_enclose {text : String} {ts : List Token} {a : Formula} (outermost : Bool)
    (writes : Writes text ts) (phrase : Phrase .term ts a) :
    ∃ us, Writes (enclose outermost text) us ∧ Phrase (renderLevel outermost) us a := by
  cases outermost with
  | true => exact ⟨ts, writes, phrase⟩
  | false => exact ⟨_, writes.parenthesized, .group phrase⟩

theorem exists_writes_render (readable : g.Readable) {a : Formula}
    (named : ∀ n ∈ a.names, IsName n) (outermost : Bool) :
    ∃ ts, Writes (a.render g outermost) ts ∧ Phrase (renderLevel outermost) ts a := by
  induction a generalizing outermost with
  | var n =>
    have writes := Writes.name (named n (by simp [names]))
    cases outermost with
    | true => exact ⟨_, writes, .product (.factor (.name n))⟩
    | false => exact ⟨_, writes, .name n⟩
  | neg a ih =>
    obtain ⟨ts, writes, phrase⟩ := ih (by simpa [names] using named) false
    obtain ⟨c, spelled, written⟩ := readable.exists_char (x := .neg) (by decide)
    rw [render, spelled]
    exact exists_enclose outermost (writes.mark written) (.product (.factor (.neg phrase)))
  | conj a b first second =>
    obtain ⟨ts, left, leftPhrase⟩ := first (fun n member => named n (by simp [names, member])) false
    obtain ⟨us, right, rightPhrase⟩ := second (fun n member => named n (by simp [names, member])) false
    exact exists_enclose outermost (left.binary readable (by decide) right)
      (.product (.conj (.factor leftPhrase) rightPhrase))
  | disj a b first second =>
    obtain ⟨ts, left, leftPhrase⟩ := first (fun n member => named n (by simp [names, member])) false
    obtain ⟨us, right, rightPhrase⟩ := second (fun n member => named n (by simp [names, member])) false
    exact exists_enclose outermost (left.binary readable (by decide) right)
      (.disj (.product (.factor leftPhrase)) (.factor rightPhrase))

end Formula

namespace Sequent

variable {g : Glyphs}

theorem exists_writes_terms (readable : g.Readable) (a : Formula) (others : List Formula)
    (named : ∀ b ∈ a :: others, ∀ n ∈ b.names, IsName n) :
    ∃ ts, Writes (", ".intercalate ((a :: others).map (·.render g true))) ts ∧
      Terms ts (a :: others) := by
  induction others generalizing a with
  | nil =>
    obtain ⟨ts, writes, phrase⟩ := Formula.exists_writes_render readable (named a (by simp)) true
    exact ⟨ts, by simpa using writes, .one phrase⟩
  | cons b others ih =>
    obtain ⟨ts, writes, phrase⟩ := Formula.exists_writes_render readable (named a (by simp)) true
    obtain ⟨us, rest, terms⟩ := ih b fun c member => named c (by simp_all)
    exact ⟨_, by simpa using writes.comma rest, .cons phrase terms⟩

theorem exists_writes_renderSide (readable : g.Readable) (side : List Formula)
    (named : ∀ a ∈ side, ∀ n ∈ a.names, IsName n) :
    ∃ ts, Writes (renderSide g side) ts ∧ WrittenSide ts side := by
  cases side with
  | nil =>
    rcases readable.empty with same | same
    · refine ⟨[.glyph .empty], ?_, .empty⟩
      rw [renderSide, same]
      simpa [Glyph.symbol] using Writes.nothing.mark (Glyph.ofChar?_char .empty)
    · exact ⟨[], by simpa [renderSide, same] using Writes.nothing, .nothing⟩
  | cons a others =>
    obtain ⟨ts, writes, terms⟩ := exists_writes_terms readable a others named
    exact ⟨ts, writes, .terms terms⟩

/-- A part that is written as nothing has no tokens, so leaving it out loses none. -/
theorem writes_joinParts (parts : List (String × List Token))
    (written : ∀ part ∈ parts, Writes part.1 part.2) :
    Writes (joinParts (parts.map Prod.fst)) (parts.flatMap Prod.snd) := by
  induction parts with
  | nil => exact .nothing
  | cons part parts ih =>
    obtain ⟨text, ts⟩ := part
    have first : Writes text ts := written (text, ts) (by simp)
    have rest := ih fun part member => written part (by simp [member])
    simp only [joinParts, List.map_cons, List.flatMap_cons] at rest ⊢
    by_cases empty : text = ""
    · subst empty
      simpa [first.eq_nil] using rest
    · rw [List.filter_cons_of_pos (by simpa using empty)]
      cases others : (parts.map Prod.fst).filter (· ≠ "") with
      | nil =>
        rw [others] at rest
        simpa [rest.eq_nil] using first
      | cons next others' =>
        rw [others] at rest
        simpa [String.append_assoc] using first.append_blank rest

theorem exists_writes_render (readable : g.Readable) {s : Sequent}
    (named : ∀ n ∈ s.names, IsName n) :
    ∃ ts, Writes (s.render g) ts ∧ WrittenSequent ts s := by
  obtain ⟨left, right⟩ := s
  simp only [names, List.mem_append, List.mem_flatMap] at named
  obtain ⟨ts, leftWrites, leftSide⟩ := exists_writes_renderSide readable left
    fun a member n inside => named n (.inl ⟨a, member, inside⟩)
  obtain ⟨us, rightWrites, rightSide⟩ := exists_writes_renderSide readable right
    fun a member n inside => named n (.inr ⟨a, member, inside⟩)
  obtain ⟨c, spelled, written⟩ := readable.exists_char (x := .turnstile) (by decide)
  have turnstile : Writes (g.spell .turnstile) [.glyph .turnstile] := by
    simpa [spelled] using Writes.nothing.mark written
  refine ⟨ts ++ .glyph .turnstile :: us, ?_, .mk leftSide rightSide⟩
  have joined := writes_joinParts
    [(renderSide g left, ts), (g.spell .turnstile, [.glyph .turnstile]), (renderSide g right, us)]
    (by simpa using ⟨leftWrites, turnstile, rightWrites⟩)
  simpa [render] using joined

end Sequent

namespace Grammar

theorem Phrase.name_mem {level : Level} {ts : List Token} {a : Formula} (phrase : Phrase level ts a)
    {n : String} (member : n ∈ a.names) : .name n ∈ ts := by
  induction phrase with
  | name m => simpa [Formula.names] using member
  | neg _ ih => exact List.mem_cons_of_mem _ (ih member)
  | group _ ih => simp [ih member]
  | factor _ ih => exact ih member
  | product _ ih => exact ih member
  | conj _ _ first second | disj _ _ first second =>
    rcases List.mem_append.mp member with left | right
    · simp [first left]
    · simp [second right]

theorem Terms.name_mem {ts : List Token} {others : List Formula} (terms : Terms ts others)
    {n : String} (member : n ∈ others.flatMap Formula.names) : .name n ∈ ts := by
  induction terms with
  | one phrase => exact phrase.name_mem (by simpa using member)
  | cons phrase _ ih =>
    rw [List.flatMap_cons] at member
    rcases List.mem_append.mp member with first | rest
    · simp [phrase.name_mem first]
    · simp [ih rest]

theorem WrittenSide.name_mem {ts : List Token} {side : List Formula} (written : WrittenSide ts side)
    {n : String} (member : n ∈ side.flatMap Formula.names) : .name n ∈ ts := by
  cases written with
  | nothing | empty => cases member
  | terms terms => exact terms.name_mem member

theorem WrittenSequent.name_mem {ts : List Token} {s : Sequent} (written : WrittenSequent ts s)
    {n : String} (member : n ∈ s.names) : .name n ∈ ts := by
  obtain ⟨left, right⟩ := written
  rcases List.mem_append.mp member with inLeft | inRight
  · simp [left.name_mem inLeft]
  · simp [right.name_mem inRight]

end Grammar

theorem Formula.renderWith_ofGlyphs (g : Glyphs) (outermost : Bool) (a : Formula) :
    a.renderWith (.ofGlyphs g) outermost = .ok (a.render g outermost) := by
  rw [renderWith, GlyphTable.covering_ofGlyphs]
  rfl

theorem Formula.parse_render {g : Glyphs} (readable : g.Readable) {a : Formula}
    (named : ∀ n ∈ a.names, IsName n) (outermost : Bool) :
    Formula.parse (a.render g outermost) = .ok a := by
  obtain ⟨ts, writes, phrase⟩ := exists_writes_render readable named outermost
  have term : Phrase .term ts a := by
    cases outermost with
    | true => exact phrase
    | false => exact .product (.factor phrase)
  exact parse_eq_ok_iff.mpr ⟨ts, writes.spells, term⟩

namespace Sequent

theorem parse_render {g : Glyphs} (readable : g.Readable) {s : Sequent}
    (named : ∀ n ∈ s.names, IsName n) : parse (s.render g) = .ok s := by
  obtain ⟨ts, writes, written⟩ := exists_writes_render readable named
  exact parse_eq_ok_iff.mpr ⟨ts, writes.spells, written⟩

theorem isName_of_parse {text : String} {s : Sequent} (parsed : parse text = .ok s) :
    ∀ n ∈ s.names, IsName n := by
  obtain ⟨ts, spells, written⟩ := parse_eq_ok_iff.mp parsed
  exact fun n member => spells.isName (written.name_mem member)

theorem renderWith_ofGlyphs (g : Glyphs) (s : Sequent) :
    s.renderWith (.ofGlyphs g) = .ok (s.render g) := by
  rw [renderWith, GlyphTable.covering_ofGlyphs]
  rfl

/-- Reading undoes rendering wherever all names can be read, and only such names are ever read.
The spellings are those of a readable glyph set, which both sets of the library are. -/
theorem parse_undoes_render :
    Glyphs.unicode.Readable ∧ Glyphs.ascii.Readable ∧ ∀ g : Glyphs, g.Readable →
      (∀ s : Sequent, (∀ n ∈ s.names, IsName n) →
        s.renderWith (.ofGlyphs g) = .ok (s.render g) ∧ parse (s.render g) = .ok s) ∧
      (∀ (a : Formula) (outermost : Bool), (∀ n ∈ a.names, IsName n) →
        a.renderWith (.ofGlyphs g) outermost = .ok (a.render g outermost) ∧
          Formula.parse (a.render g outermost) = .ok a) ∧
      ∀ (text : String) (s : Sequent), parse text = .ok s →
        (∀ n ∈ s.names, IsName n) ∧ parse (s.render g) = .ok s := by
  refine ⟨Glyphs.unicode_readable, Glyphs.ascii_readable, fun g readable => ⟨?_, ?_, ?_⟩⟩
  · intro s named
    exact ⟨renderWith_ofGlyphs g s, parse_render readable named⟩
  · intro a outermost named
    exact ⟨Formula.renderWith_ofGlyphs g outermost a,
      Formula.parse_render readable named outermost⟩
  · intro text s parsed
    have named := isName_of_parse parsed
    exact ⟨named, parse_render readable named⟩

/-- A left side that is written as nothing, and parentheses on the right. -/
theorem parse_render_excludedMiddle :
    Glyphs.ascii.Readable ∧
    (Sequent.mk [] [.disj (.neg (.var "A1")) (.var "A1")]).render .ascii = "> (!A1) | A1" ∧
    parse "> (!A1) | A1" = .ok ⟨[], [.disj (.neg (.var "A1")) (.var "A1")]⟩ := by
  have rendered : (Sequent.mk [] [.disj (.neg (.var "A1")) (.var "A1")]).render .ascii =
      "> (!A1) | A1" := by decide
  have named : ∀ n ∈ (Sequent.mk [] [.disj (.neg (.var "A1")) (.var "A1")]).names, IsName n := by
    intro n member
    obtain rfl : n = "A1" := by simpa [names, Formula.names] using member
    exact ⟨'A', ['1'], by decide, by decide, by decide⟩
  refine ⟨Glyphs.ascii_readable, rendered, ?_⟩
  rw [← rendered]
  exact ((parse_undoes_render.2.2 .ascii Glyphs.ascii_readable).1 _ named).2

end Sequent

end Turnstile

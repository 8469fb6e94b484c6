import Mathlib.Data.List.Basic
import Turnstile.Answer
import Turnstile.Proofs.Display
import Turnstile.Proofs.Subformulas
import Turnstile.Proofs.Validity

/-! Answers to texts. Whatever the text, an answer comes back, and none of the checks on the way to
it can fail. It refuses the text with the reader's complaint, or it decides the sequent that was
read and shows the tree of the search, from which the tree can be had back. The sequent is shown as
a text to which the answer is the same. -/
namespace Turnstile.Answer

open Grammar

theorem guardedSequent_ofString (text : String) :
    (Cursor.ofString text).guardedSequent.1 = (Sequent.parse text).mapError .complaint := by
  rw [Cursor.guardedSequent_eq]
  rfl

theorem select_backward :
    Strategy.select Strategy.defaults "backward" none = .ok Rule.priority := by
  rfl

theorem ofText_of_refused {text : String} {e : SyntaxError} (failed : Sequent.parse text = .error e)
    (strategy : String) (table : GlyphTable) : ofText strategy table text = .ok (refused e) := by
  have read : (Cursor.ofString text).guardedSequent.1 = .error (.complaint e) := by
    rw [guardedSequent_ofString, failed]
    rfl
  rw [ofText, read]

theorem ofText_of_parsed {text : String} {s : Sequent} (parsed : Sequent.parse text = .ok s)
    (table : GlyphTable) :
    ofText "backward" table text =
      (ofDerivation table s (s.derive Rule.priority)).mapError .glyph := by
  have read : (Cursor.ofString text).guardedSequent.1 = .ok s := by
    rw [guardedSequent_ofString, parsed]
    rfl
  rw [ofText, read, select_backward]
  simp only [ofSequent, Sequent.guardedDerive_eq]

/-- Nothing is missing where the table spells every symbol. -/
theorem ofDerivation_ofGlyphs {g : Glyphs} (readable : g.Readable) (s : Sequent) (d : Derivation)
    (named : ∀ node ∈ d.walk, ∀ n ∈ node.sequent.names, IsName n) :
    ∃ tree, ofDerivation (.ofGlyphs g) s d = .ok (settled (s.render g) d.isProved tree) ∧
      Display.read tree = .ok (.tree (d.map id Json.ofText?)) := by
  obtain ⟨tree, encoded, back⟩ := Display.read_encode readable (.tree d) named
  refine ⟨tree, ?_, back⟩
  rw [ofDerivation, Sequent.renderWith_ofGlyphs]
  simp only [encoded]
  rfl

theorem payload_of_parsed {g : Glyphs} (readable : g.Readable) {text : String} {s : Sequent}
    (parsed : Sequent.parse text = .ok s) :
    ∃ tree, payload "backward" (.ofGlyphs g) text =
        .ok (settled (s.render g) (s.derive Rule.priority).isProved tree).toJson ∧
      Display.read tree = .ok (.tree ((s.derive Rule.priority).map id Json.ofText?)) := by
  have named : ∀ node ∈ (s.derive Rule.priority).walk, ∀ n ∈ node.sequent.names, IsName n := by
    intro node member n name
    exact Sequent.isName_of_parse parsed n (Sequent.names_of_mem_walk Rule.priority s member name)
  obtain ⟨tree, answered, back⟩ := ofDerivation_ofGlyphs readable s _ named
  refine ⟨tree, ?_, back⟩
  rw [payload, ofText_of_parsed parsed, answered]
  rfl

/-- All that an answer knows of a text is what was read from it. -/
theorem payload_eq_of_parse_eq {text other : String}
    (same : Sequent.parse text = Sequent.parse other) (strategy : String) (table : GlyphTable) :
    payload strategy table text = payload strategy table other := by
  rw [payload, payload, ofText, ofText, guardedSequent_ofString, guardedSequent_ofString, same]

/-- Every text gets an answer, in either spelling of the symbols. A text outside the grammar is
refused with the complaint of the reader. Any other is decided, with the search's own tree; the
sequent's rendering gets the same answer. -/
theorem payload_total {table : GlyphTable} (known : table = .unicode ∨ table = .ascii)
    (text : String) :
    ∃ shown, payload "backward" table text = .ok shown ∧
      ((∃ e : SyntaxError,
          (∀ ts, Spells text.toList ts → ∀ s, ¬WrittenSequent ts s) ∧
          Sequent.parse text = .error e ∧
          shown = .object [("ok", .bool false), ("error", .object
            [("message", .text e.complaint.message), ("position", .number e.position)])]) ∨
        ∃ s sequent proved tree,
          (∃ ts, Spells text.toList ts ∧ WrittenSequent ts s) ∧ Sequent.parse text = .ok s ∧
          shown = .object [("ok", .bool true), ("sequent", .text sequent),
            ("proved", .bool proved), ("derivation", tree)] ∧
          (proved = true ↔ s.Valid) ∧
          (∀ d : Derivation, Display.read tree = .ok (.tree (d.map id Json.ofText?)) ↔
            d = s.derive Rule.priority) ∧
          s.renderWith table = .ok sequent ∧ payload "backward" table sequent = .ok shown) := by
  -- All that matters of the two tables is that they spell every symbol so that it is read back.
  obtain ⟨g, readable, rfl⟩ : ∃ g : Glyphs, g.Readable ∧ table = .ofGlyphs g := by
    rcases known with rfl | rfl
    · exact ⟨.unicode, Glyphs.unicode_readable, rfl⟩
    · exact ⟨.ascii, Glyphs.ascii_readable, rfl⟩
  cases read : Sequent.parse text with
  | error e =>
    refine ⟨(refused e).toJson, ?_, .inl ⟨e, ?_, rfl, rfl⟩⟩
    · rw [payload, ofText_of_refused read]
      rfl
    · intro ts spells s written
      cases read.symm.trans (Sequent.parse_eq_ok_iff.mpr ⟨ts, spells, written⟩)
  | ok s =>
    obtain ⟨tree, answered, back⟩ := payload_of_parsed readable read
    have shown : Sequent.parse (s.render g) = .ok s :=
      Sequent.parse_render readable (Sequent.isName_of_parse read)
    refine ⟨_, answered, .inr ⟨s, s.render g, _, tree, Sequent.parse_eq_ok_iff.mp read, rfl, rfl,
      Sequent.isProved_iff_valid Rule.mem_priority, ?_, Sequent.renderWith_ofGlyphs g s, ?_⟩⟩
    · intro d
      rw [back, Except.ok.injEq, ProofTree.Branch.tree.injEq,
        ProofTree.map_id_inj Json.ofText?_inj]
      exact eq_comm
    · rw [payload_eq_of_parse_eq (shown.trans read.symm), answered]

/-- The law of the excluded middle, in keyboard spelling and without blanks. -/
theorem payload_excludedMiddle :
    ∃ tree, payload "backward" .ascii ">A|!A" =
      .ok (.object [("ok", .bool true), ("sequent", .text "> A | (!A)"), ("proved", .bool true),
        ("derivation", tree)]) := by
  have read : Sequent.parse ">A|!A" = .ok ⟨[], [.disj (.var "A") (.neg (.var "A"))]⟩ := by
    decide +kernel
  obtain ⟨shown, answered, refusal | settlement⟩ := payload_total (.inr rfl) ">A|!A"
  · obtain ⟨e, _, failed, _⟩ := refusal
    cases read.symm.trans failed
  · obtain ⟨s, sequent, proved, tree, _, parsed, rfl, valid, _, rendered, _⟩ := settlement
    cases read.symm.trans parsed
    cases (Sequent.renderWith_ofGlyphs .ascii _).symm.trans rendered
    have verdict : proved = true := by
      apply valid.mpr
      intro v _
      cases truth : v "A" <;> simp [Formula.holds, truth]
    refine ⟨tree, ?_⟩
    rw [answered, verdict]
    rfl

end Turnstile.Answer

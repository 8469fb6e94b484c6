import Turnstile.Display
import Turnstile.Proofs.RoundTrip

/-! The display encoding read back. A node is read once its sequent is and everything below it
is, so an encoded tree is read back from its leaves to its root. Labels come back as the values
that they were encoded by, and these tell all labels apart. -/
namespace Turnstile

namespace ProofTree

variable {σ ρ τ υ : Type}

theorem mapSequents_ok {ε : Type} (f : σ → τ) (t : ProofTree σ ρ) :
    t.mapSequents (fun s => (.ok (f s) : Except ε τ)) = .ok (t.map f id) := by
  induction t with
  | closed s l | failed s l => rfl
  | single s l t ih =>
    simp only [mapSequents, ih]
    rfl
  | double s l t u first second =>
    simp only [mapSequents, first, second]
    rfl

/-- Trees over the same sequents stay apart if their labels do. -/
theorem map_id_inj {g : ρ → υ} (labels : ∀ l m, g l = g m ↔ l = m) (t u : ProofTree σ ρ) :
    t.map id g = u.map id g ↔ t = u := by
  induction t generalizing u with
  | closed s l => cases u <;> simp [map, labels]
  | failed s l => cases u <;> simp [map, labels]
  | single s l t ih => cases u <;> simp [map, labels, ih]
  | double s l t v first second => cases u <;> simp [map, labels, first, second]

end ProofTree

theorem Json.ofText?_inj (l m : Option String) : Json.ofText? l = Json.ofText? m ↔ l = m := by
  cases l <;> cases m <;> simp [Json.ofText?]

theorem Derivation.renderWith_ofGlyphs (g : Glyphs) (t : Derivation) :
    Derivation.renderWith (.ofGlyphs g) t = .ok (t.map (·.render g) id) := by
  have total : (fun s : Sequent => s.renderWith (.ofGlyphs g)) = fun s => .ok (s.render g) :=
    funext (Sequent.renderWith_ofGlyphs g)
  rw [Derivation.renderWith, total, ProofTree.mapSequents_ok]

namespace Display

theorem readItems_cons {item : Json} {items : List Json}
    {first : ProofTree.Branch Sequent Json} {others : List (ProofTree.Branch Sequent Json)}
    (head : read item = .ok first) (tail : readItems items = .ok others) :
    readItems (item :: items) = .ok (first :: others) := by
  rw [readItems, head, tail]
  rfl

theorem assemble_eq_ok {fields : Fields Json} {text : String} {s : Sequent} {label : Json}
    {branches : List (ProofTree.Branch Sequent Json)} {t : ProofTree Sequent Json}
    (unmarked : fields.get? "fail" = none) (written : fields.get? "sequent" = some (.text text))
    (labelled : fields.get? "rule" = some label) (parsed : Sequent.parse text = .ok s)
    (shaped : ProofTree.ofBranches s label branches = .ok t) :
    assemble fields (.ok branches) = .ok (.tree t) := by
  have sequent : readSequent (.text text) = .ok s := by
    rw [readSequent, parsed]
    rfl
  simp only [assemble, unmarked, written, labelled, Option.getD_some]
  change (readSequent (.text text) >>= fun s =>
    (ProofTree.ofBranches s label branches).mapError ReadError.shape >>= fun tree =>
      pure (ProofTree.Branch.tree tree)) = _
  rw [sequent]
  change ((ProofTree.ofBranches s label branches).mapError ReadError.shape >>= fun tree =>
    pure (ProofTree.Branch.tree tree)) = _
  rw [shaped]
  rfl

/-- A node is read where its sequent parses and where the things below it are read and can stand
below one node. -/
theorem read_nodeJson {text : String} {s : Sequent} {label : Json} (closed : Bool)
    {children : List Json} {branches : List (ProofTree.Branch Sequent Json)}
    {t : ProofTree Sequent Json} (parsed : Sequent.parse text = .ok s)
    (below : readItems children = .ok branches)
    (shaped : ProofTree.ofBranches s label branches = .ok t) :
    read (nodeJson (.text text) label closed children) = .ok (.tree t) := by
  have members : readChildren [("sequent", .text text), ("rule", label), ("closed", .bool closed),
      ("children", .array children)] = .ok branches := by
    simp [readChildren, readMembers, below]
  rw [nodeJson, read, members]
  exact assemble_eq_ok (by simp [Fields.get?]) (by simp [Fields.get?]) (by simp [Fields.get?])
    parsed shaped

/-- Reading undoes the encoding of a tree whose sequents can be read back from their texts. -/
theorem read_write {f : Sequent → String} (t : Derivation)
    (parsed : ∀ node ∈ t.walk, Sequent.parse (f node.sequent) = .ok node.sequent) :
    read (write .text Json.ofText? (t.map f id)) = .ok (.tree (t.map id Json.ofText?)) := by
  induction t with
  | closed s l =>
    have root := parsed (.closed s l) (by simp [ProofTree.walk])
    exact read_nodeJson true root rfl rfl
  | failed s l =>
    have root := parsed (.failed s l) (by simp [ProofTree.walk])
    exact read_nodeJson false root (readItems_cons rfl rfl) rfl
  | single s l t ih =>
    have root := parsed (.single s l t) (by simp [ProofTree.walk])
    have premise := ih fun node member => parsed node (by simp [ProofTree.walk, member])
    exact read_nodeJson false root (readItems_cons premise rfl) rfl
  | double s l t u first second =>
    have root := parsed (.double s l t u) (by simp [ProofTree.walk])
    have left := first fun node member => parsed node (by simp [ProofTree.walk, member])
    have right := second fun node member => parsed node (by simp [ProofTree.walk, member])
    exact read_nodeJson false root (readItems_cons left (readItems_cons right rfl)) rfl

theorem read_encode {g : Glyphs} (readable : g.Readable)
    (b : ProofTree.Branch Sequent (Option String))
    (named : ∀ node ∈ b.walk, ∀ n ∈ node.sequent.names, IsName n) :
    ∃ shown, encode (.ofGlyphs g) b = .ok shown ∧ read shown = .ok (b.map id Json.ofText?) := by
  cases b with
  | fail => exact ⟨failJson, rfl, rfl⟩
  | tree t =>
    refine ⟨write .text Json.ofText? (t.map (·.render g) id), ?_, ?_⟩
    · rw [encode, Derivation.renderWith_ofGlyphs]
      rfl
    · exact read_write t fun node member => Sequent.parse_render readable (named node member)

/-- Every tree, and a lone failure, is read back from its display encoding in either spelling of
the symbols, provided that its names can be read; its labels may be any. What is read back stands
for no other tree. -/
theorem read_encode_exact {table : GlyphTable} (known : table = .unicode ∨ table = .ascii)
    (b : ProofTree.Branch Sequent (Option String))
    (named : ∀ node ∈ b.walk, ∀ n ∈ node.sequent.names, IsName n) :
    ∃ shown, encode table b = .ok shown ∧ read shown = .ok (b.map id Json.ofText?) ∧
      ∀ other : ProofTree.Branch Sequent (Option String),
        b.map id Json.ofText? = other.map id Json.ofText? ↔ b = other := by
  have apart : ∀ other : ProofTree.Branch Sequent (Option String),
      b.map id Json.ofText? = other.map id Json.ofText? ↔ b = other := by
    intro other
    cases b <;> cases other <;>
      simp [ProofTree.Branch.map, ProofTree.map_id_inj Json.ofText?_inj]
  rcases known with rfl | rfl
  · obtain ⟨shown, encoded, back⟩ := read_encode Glyphs.unicode_readable b named
    exact ⟨shown, encoded, back, apart⟩
  · obtain ⟨shown, encoded, back⟩ := read_encode Glyphs.ascii_readable b named
    exact ⟨shown, encoded, back, apart⟩

/-- A failed search with an empty side, and a label that is no rule's name. -/
theorem read_encode_failed :
    ∃ shown, encode .ascii (.tree (.single ⟨[], [.neg (.var "A")]⟩ (some "by \"hand\"")
        (.failed ⟨[.var "A"], []⟩ none))) = .ok shown ∧
      read shown = .ok (.tree (.single ⟨[], [.neg (.var "A")]⟩ (.text "by \"hand\"")
        (.failed ⟨[.var "A"], []⟩ .null))) := by
  have letter : IsName "A" := ⟨'A', [], by decide, by decide, by decide⟩
  have named : ∀ node ∈ (ProofTree.Branch.tree (.single (Sequent.mk [] [.neg (.var "A")])
      (some "by \"hand\"") (.failed ⟨[.var "A"], []⟩ none))).walk,
      ∀ n ∈ node.sequent.names, IsName n := by
    simpa [ProofTree.Branch.walk, ProofTree.walk, ProofTree.sequent, Sequent.names,
      Formula.names] using letter
  obtain ⟨shown, encoded, back, _⟩ := read_encode_exact (.inr rfl) _ named
  exact ⟨shown, encoded, back⟩

end Display

end Turnstile

import Mathlib.Data.List.TakeWhile
import Turnstile.Proofs.RoundTrip
import Turnstile.Proofs.Storing
import Turnstile.SequentFile

/-! Files of sequents read back. A line holds a sequent between blanks, or nothing that is to be
read. No rendering of a sequent can be taken for a line of the second kind or break into two lines,
so the sequents come back with the numbers of their lines, whatever stands between them and however
the lines end. -/
namespace Turnstile

namespace Text

inductive LineEnd where
  | feed
  | returnFeed
  deriving DecidableEq, Repr

def LineEnd.chars : LineEnd → List Char
  | feed => ['\n']
  | returnFeed => ['\r', '\n']

/-- No character that ends a line. -/
def Unbroken (line : List Char) : Prop :=
  '\n' ∉ line ∧ '\r' ∉ line

theorem Unbroken.cons {c : Char} {line : List Char} (unbroken : Unbroken (c :: line)) :
    c ≠ '\n' ∧ c ≠ '\r' ∧ Unbroken line := by
  obtain ⟨feed, carriage⟩ := unbroken
  simp only [List.mem_cons, not_or] at feed carriage
  exact ⟨Ne.symm feed.1, Ne.symm carriage.1, feed.2, carriage.2⟩

theorem splitLines_cons {c : Char} (rest : List Char) (feed : c ≠ '\n') (carriage : c ≠ '\r') :
    splitLines (c :: rest) = (c :: (splitLines rest).headD []) :: (splitLines rest).tail := by
  rw [splitLines]
  · simp only [beq_iff_eq, Bool.or_eq_true, feed, carriage, or_self, if_false]
    cases splitLines rest <;> rfl
  · intro _ same
    exact (carriage same).elim

theorem splitLines_append {line : List Char} (unbroken : Unbroken line) (ending : LineEnd)
    (rest : List Char) : splitLines (line ++ ending.chars ++ rest) = line :: splitLines rest := by
  induction line with
  | nil => cases ending <;> simp [LineEnd.chars, splitLines]
  | cons c line ih =>
    obtain ⟨feed, carriage, tail⟩ := unbroken.cons
    rw [List.cons_append, List.cons_append, splitLines_cons _ feed carriage, ih tail]
    rfl

/-- Behind the last line end a line is counted only if there is something on it. -/
theorem splitLines_of_unbroken {line : List Char} (unbroken : Unbroken line) :
    splitLines line = if line = [] then [] else [line] := by
  induction line with
  | nil => rfl
  | cons c line ih =>
    obtain ⟨feed, carriage, tail⟩ := unbroken.cons
    rw [splitLines_cons _ feed carriage, ih tail]
    cases line <;> rfl

end Text

namespace Grammar

variable {chars : List Char} {ts : List Token}

theorem Spells.blanks_append {blanks : List Char} (blank : ∀ c ∈ blanks, Token.isBlank c = true)
    (spells : Spells chars ts) : Spells (blanks ++ chars) ts := by
  induction blanks with
  | nil => exact spells
  | cons c blanks ih =>
    exact .blank (blank c (by simp)) (ih fun d member => blank d (by simp [member]))

/-- A character outside the written language. -/
structure Foreign (c : Char) : Prop where
  notBlank : Token.isBlank c = false
  notFirst : Token.startsName c = false
  notInside : Token.continuesName c = false
  notMark : Token.ofChar? c = none

theorem Spells.not_mem {c : Char} (spells : Spells chars ts) (foreign : Foreign c) : c ∉ chars := by
  induction spells with
  | done => simp
  | blank blank _ ih =>
    simp only [List.mem_cons, not_or]
    refine ⟨?_, ih⟩
    rintro rfl
    cases blank.symm.trans foreign.notBlank
  | @name first word rest ts starts continues _ _ ih =>
    simp only [List.mem_cons, List.mem_append, not_or]
    refine ⟨?_, ?_, ih⟩
    · rintro rfl
      cases starts.symm.trans foreign.notFirst
    · intro inside
      cases (continues c inside).symm.trans foreign.notInside
  | mark written _ ih =>
    simp only [List.mem_cons, not_or]
    refine ⟨?_, ih⟩
    rintro rfl
    cases written.symm.trans foreign.notMark

theorem Spells.unbroken (spells : Spells chars ts) : Text.Unbroken chars :=
  ⟨spells.not_mem ⟨by decide, by decide, by decide, by decide⟩,
    spells.not_mem ⟨by decide, by decide, by decide, by decide⟩⟩

theorem Spells.exists_mark {x : Glyph} (spells : Spells chars ts) (member : .glyph x ∈ ts) :
    ∃ c ∈ chars, Token.ofChar? c = some (.glyph x) := by
  induction spells with
  | done => cases member
  | blank _ _ ih =>
    obtain ⟨c, inside, written⟩ := ih member
    exact ⟨c, by simp [inside], written⟩
  | name _ _ _ _ ih =>
    obtain ⟨c, inside, written⟩ := ih (by simpa using member)
    exact ⟨c, by simp [inside], written⟩
  | @mark c t rest ts written _ ih =>
    rcases List.mem_cons.mp member with rfl | later
    · exact ⟨c, by simp, written⟩
    · obtain ⟨d, inside, here⟩ := ih later
      exact ⟨d, by simp [inside], here⟩

theorem not_isBlank_of_turnstile {c : Char} (written : Token.ofChar? c = some (.glyph .turnstile)) :
    Text.isBlank c = false := by
  unfold Token.ofChar? at written
  split at written
  · cases written
  · cases written
  · cases written
  · obtain ⟨g, found, same⟩ := Option.map_eq_some_iff.mp written
    cases same
    have hit := List.find?_some found
    simp only [Glyph.char, Glyph.alias?, Bool.or_eq_true, beq_iff_eq, Option.some.injEq] at hit
    rcases hit with rfl | rfl <;> decide

end Grammar

theorem Format.readable {f : Format} (known : f = .unicode ∨ f = .ascii) : f.glyphs.Readable := by
  rcases known with rfl | rfl
  · exact Glyphs.unicode_readable
  · exact Glyphs.ascii_readable

namespace SequentFile

open Grammar

/-- A line that is not to be read: it is blank, or a comment stands on it. -/
def Skipped (line : List Char) : Prop :=
  (∀ c ∈ line, Text.isBlank c = true) ∨
    ∃ margin text, (∀ c ∈ margin, Text.isBlank c = true) ∧ line = margin ++ '#' :: text

theorem isNoise_iff (line : List Char) : isNoise line = true ↔ Skipped line := by
  unfold isNoise Skipped
  constructor
  · split
    · rename_i none
      intro _
      exact .inl (List.dropWhile_eq_nil_iff.mp none)
    · rename_i c text visible
      intro mark
      refine .inr ⟨line.takeWhile Text.isBlank, text, fun d inside => ?_, ?_⟩
      · exact List.all_eq_true.mp List.all_takeWhile d inside
      · rw [← beq_iff_eq.mp mark, ← visible, List.takeWhile_append_dropWhile]
  · rintro (blank | ⟨margin, text, blank, rfl⟩)
    · rw [List.dropWhile_eq_nil_iff.mpr blank]
    · have visible : Text.isBlank '#' = false := by decide
      rw [List.dropWhile_append_of_pos blank, List.dropWhile_cons_of_neg (by simp [visible])]
      rfl

instance (line : List Char) : Decidable (Skipped line) :=
  decidable_of_iff _ (isNoise_iff line)

/-- A text that can be read as a sequent is no line to skip, because it has a turnstile, which is
visible, and no mark of a comment. -/
theorem not_skipped_of_parse {line : List Char} {s : Sequent}
    (parsed : Sequent.parse (String.ofList line) = .ok s) : ¬Skipped line := by
  obtain ⟨ts, spells, written⟩ := Sequent.parse_eq_ok_iff.mp parsed
  rw [String.toList_ofList] at spells
  rintro (blank | ⟨margin, text, _, rfl⟩)
  · obtain ⟨left, right⟩ := written
    obtain ⟨c, inside, turnstile⟩ := spells.exists_mark (x := .turnstile) (by simp)
    cases (blank c inside).symm.trans (not_isBlank_of_turnstile turnstile)
  · exact spells.not_mem (c := '#') ⟨by decide, by decide, by decide, by decide⟩ (by simp)

/-- What may stand on a line, with the sequent that is to be read from it. -/
inductive Holds : List Char → Option Sequent → Prop where
  | sequent {f : Format} {s : Sequent} {before after : List Char} :
      f = .unicode ∨ f = .ascii → (∀ n ∈ s.names, IsName n) →
        (∀ c ∈ before, Token.isBlank c = true) → (∀ c ∈ after, Token.isBlank c = true) →
          Holds (before ++ (f.write s).toList ++ after) (some s)
  | blank {line : List Char} : (∀ c ∈ line, Text.isBlank c = true) → Holds line none
  | comment {margin text : List Char} : (∀ c ∈ margin, Text.isBlank c = true) →
      Holds (margin ++ '#' :: text) none

/-- A line of a file, without what ends it. -/
structure Line where
  chars : List Char
  sequent? : Option Sequent
  holds : Holds chars sequent?
  unbroken : Text.Unbroken chars

/-- The text of lines with their ends, and of one that has none. -/
def text (lines : List (Line × Text.LineEnd)) (last : Option Line) : List Char :=
  lines.flatMap (fun (line, ending) => line.chars ++ ending.chars) ++ (last.map (·.chars)).getD []

/-- The sequents of lines with their numbers, the first line having a given one. -/
def numbered (first : Nat) (lines : List Line) : List (Nat × Sequent) :=
  (lines.zipIdx first).filterMap fun (line, number) => line.sequent?.map fun s => (number, s)

/-- Blanks around a rendering change nothing. -/
theorem parse_surrounded {f : Format} {s : Sequent} {before after : List Char}
    (known : f = .unicode ∨ f = .ascii) (named : ∀ n ∈ s.names, IsName n)
    (blankBefore : ∀ c ∈ before, Token.isBlank c = true)
    (blankAfter : ∀ c ∈ after, Token.isBlank c = true) :
    Sequent.parse (String.ofList (before ++ (f.write s).toList ++ after)) = .ok s := by
  obtain ⟨ts, writes, written⟩ := Sequent.exists_writes_render (Format.readable known) named
  have nothing : Spells after [] := by simpa using Spells.done.blanks_append blankAfter
  have bounded : Bounded after := by
    intro c head
    have blank := blankAfter c (List.mem_of_head? head)
    simp only [Token.isBlank, Bool.or_eq_true, beq_iff_eq] at blank
    rcases blank with rfl | rfl <;> decide
  have spells := (writes after [] bounded nothing).blanks_append blankBefore
  refine Sequent.parse_eq_ok_iff.mpr ⟨ts, ?_, written⟩
  simpa [Format.write] using spells

section

variable {line : List Char} {s : Sequent} {e : SyntaxError}

theorem scanLines_cons_of_skipped (skipped : Skipped line) (number : Nat)
    (rest : List (List Char)) : scanLines number (line :: rest) = scanLines (number + 1) rest := by
  rw [scanLines, if_pos ((isNoise_iff line).mpr skipped)]

theorem scanLines_cons_of_error (visible : ¬Skipped line)
    (refused : Sequent.parse (String.ofList line) = .error e) (number : Nat)
    (rest : List (List Char)) : scanLines number (line :: rest) = ⟨[], some ⟨number, e⟩⟩ := by
  rw [scanLines, if_neg (mt (isNoise_iff line).mp visible), refused]

theorem scanLines_cons_of_parsed (parsed : Sequent.parse (String.ofList line) = .ok s) (number : Nat)
    (rest : List (List Char)) :
    scanLines number (line :: rest) =
      { scanLines (number + 1) rest with
        entries := (number, s) :: (scanLines (number + 1) rest).entries } := by
  rw [scanLines, if_neg (mt (isNoise_iff line).mp (not_skipped_of_parse parsed)), parsed]

end

/-- Reading one line of a file. -/
theorem scanLines_holds {line : List Char} {s? : Option Sequent} (holds : Holds line s?)
    (number : Nat) (rest : List (List Char)) :
    scanLines number (line :: rest) =
      { scanLines (number + 1) rest with
        entries := (s?.map fun s => (number, s)).toList ++ (scanLines (number + 1) rest).entries } := by
  cases holds with
  | blank blank => exact scanLines_cons_of_skipped (.inl blank) number rest
  | comment blank => exact scanLines_cons_of_skipped (.inr ⟨_, _, blank, rfl⟩) number rest
  | sequent known named before after =>
    exact scanLines_cons_of_parsed (parse_surrounded known named before after) number rest

theorem numbered_cons (first : Nat) (line : Line) (lines : List Line) :
    numbered first (line :: lines) =
      (line.sequent?.map fun s => (first, s)).toList ++ numbered (first + 1) lines := by
  cases sequent : line.sequent? <;> simp [numbered, sequent]

/-- Reading a whole file, from a line of any number on. -/
theorem scanLines_text (lines : List (Line × Text.LineEnd)) (last : Option Line) (first : Nat) :
    scanLines first (Text.splitLines (text lines last)) =
      ⟨numbered first (lines.map (·.1) ++ last.toList), none⟩ := by
  induction lines generalizing first with
  | nil =>
    cases last with
    | none => rfl
    | some line =>
      have single : scanLines first [line.chars] = ⟨numbered first [line], none⟩ := by
        rw [scanLines_holds line.holds, numbered_cons]
        rfl
      have split := Text.splitLines_of_unbroken line.unbroken
      by_cases empty : line.chars = []
      · -- An empty last line is not counted, and nothing is lost with it.
        rw [empty] at single split
        simpa [text, empty, split, scanLines, isNoise] using single
      · simpa [text, empty, split] using single
  | cons pair lines ih =>
    obtain ⟨line, ending⟩ := pair
    have split : Text.splitLines (text ((line, ending) :: lines) last) =
        line.chars :: Text.splitLines (text lines last) := by
      simpa [text] using Text.splitLines_append line.unbroken ending (text lines last)
    rw [split, scanLines_holds line.holds, ih, List.map_cons, List.cons_append, numbered_cons]

theorem scan_text (lines : List (Line × Text.LineEnd)) (last : Option Line) :
    scan (String.ofList (text lines last)) =
      ⟨numbered 1 (lines.map (·.1) ++ last.toList), none⟩ := by
  rw [scan, String.toList_ofList, scanLines_text]

/-- The line on which a sequent is written. -/
def Line.ofSequent {f : Format} (known : f = .unicode ∨ f = .ascii) (s : Sequent)
    (named : ∀ n ∈ s.names, IsName n) : Line where
  chars := (f.write s).toList
  sequent? := some s
  holds := by simpa using @Holds.sequent f s [] [] known named (by simp) (by simp)
  unbroken := by
    obtain ⟨ts, writes, _⟩ := Sequent.exists_writes_render (Format.readable known) named
    exact writes.spells.unbroken

theorem numbered_eq_zipIdx {lines : List Line} {sequents : List Sequent}
    (full : lines.map (·.sequent?) = sequents.map some) (first : Nat) :
    numbered first lines = (sequents.zipIdx first).map fun (s, number) => (number, s) := by
  induction lines generalizing sequents first with
  | nil =>
    obtain rfl : sequents = [] := by simpa using full.symm
    rfl
  | cons line lines ih =>
    cases sequents with
    | nil => simp at full
    | cons s sequents =>
      obtain ⟨here, rest⟩ : line.sequent? = some s ∧ _ = sequents.map some := by simpa using full
      rw [numbered_cons, ih rest, here]
      rfl

/-- What is written to a file is read back with the numbers of the lines. -/
theorem scan_content {f : Format} (known : f = .unicode ∨ f = .ascii) {sequents : List Sequent}
    (named : ∀ s ∈ sequents, ∀ n ∈ s.names, IsName n) :
    scan (content f sequents) = ⟨(sequents.zipIdx 1).map fun (s, number) => (number, s), none⟩ := by
  let lines : List Line := sequents.attach.map fun s => .ofSequent known s.1 (named s.1 s.2)
  have chars : lines.map (·.chars) = sequents.map fun s => (f.write s).toList := by
    simp [lines, Line.ofSequent, Function.comp_def]
  have full : lines.map (·.sequent?) = sequents.map some := by
    simp [lines, Line.ofSequent, Function.comp_def]
  have written : content f sequents = String.ofList (text (lines.map (·, .feed)) none) := by
    have joined : text (lines.map (·, .feed)) none =
        (lines.map (·.chars)).flatMap (· ++ ['\n']) := by
      simp [text, Text.LineEnd.chars, List.flatMap_map]
    rw [joined, chars, ← String.toList_inj]
    simp [content, String.toList_join, List.flatMap_map]
  rw [written, scan_text, ← numbered_eq_zipIdx full]
  simp [Function.comp_def]

theorem run_load {w : Workspace} {path content : String}
    (stored : w.load path = .ok content.toUTF8) :
    (load path : StateM Workspace _).run w = (.ok (scan content), w) := by
  unfold load
  rw [Workspace.run_bind, Workspace.run_loadText stored]
  rfl

/-- Whatever stands between the sequents of a file, they are read with the numbers of their lines
and without complaint. In particular sequents are written wherever a file can be saved, and are read
back from there. -/
theorem load_reads_lines (w : Workspace) (path : String) :
    (∀ (lines : List (Line × Text.LineEnd)) (last : Option Line),
      w.load path = .ok (String.ofList (text lines last)).toUTF8 →
        (load path : StateM Workspace _).run w =
          (.ok ⟨numbered 1 (lines.map (·.1) ++ last.toList), none⟩, w)) ∧
      ∀ (f : Format) (sequents : List Sequent), f = .unicode ∨ f = .ascii →
        (∀ s ∈ sequents, ∀ n ∈ s.names, IsName n) →
          w.destination path ≠ .ok Workspace.nullDevice →
            ∀ w', w.save path (content f sequents).toUTF8 = .ok w' →
              (save f path sequents : StateM Workspace _).run w = (.ok (), w') ∧
                ∃ found, (load path : StateM Workspace _).run w' = (.ok found, w') ∧
                  ∃ entries, found.complete = .ok entries ∧ entries.map (·.2) = sequents := by
  constructor
  · intro lines last stored
    rw [run_load stored, scan_text]
  · intro f sequents known named real w' saved
    have stored := Workspace.load_save saved real
    refine ⟨Workspace.run_saveText saved, _, run_load stored,
      (sequents.zipIdx 1).map fun (s, number) => (number, s), ?_, ?_⟩
    · rw [scan_content known named]
      rfl
    · simp [Function.comp_def]

/-- A comment, a line of one no-break space, the empty sequent as it is written on a keyboard, and a
line without end; and two sequents that are written and read back. -/
theorem load_reads_noisy_lines :
    (load "s" : StateM Workspace _).run
        ⟨[(["s"], "#1\r\n\u00a0\n\t>\r\nA ⊦ A".toUTF8)], []⟩ =
      (.ok ⟨[(3, ⟨[], []⟩), (4, ⟨[.var "A"], [.var "A"]⟩)], none⟩,
        ⟨[(["s"], "#1\r\n\u00a0\n\t>\r\nA ⊦ A".toUTF8)], []⟩) ∧
    ∃ w' found,
      (save .ascii "s" [⟨[], []⟩, ⟨[.var "A"], [.var "A"]⟩] : StateM Workspace _).run ⟨[], []⟩ =
        (.ok (), w') ∧
      (load "s" : StateM Workspace _).run w' = (.ok found, w') ∧
        ∃ entries, found.complete = .ok entries ∧
          entries.map (·.2) = [⟨[], []⟩, ⟨[.var "A"], [.var "A"]⟩] := by
  have stored (bytes : ByteArray) : (Workspace.mk [(["s"], bytes)] []).load "s" = .ok bytes := by
    with_unfolding_all rfl
  have made (bytes : ByteArray) : (Workspace.mk [] []).save "s" bytes =
      .ok ⟨[(["s"], bytes)], []⟩ := by
    with_unfolding_all rfl
  let comment : Line :=
    ⟨['#', '1'], none, @Holds.comment [] ['1'] (by simp), by decide, by decide⟩
  let blank : Line := ⟨['\u00a0'], none, .blank (List.forall_mem_singleton.mpr (by decide)), by decide,
    by decide⟩
  let empty : Line :=
    ⟨['\t', '>'], some ⟨[], []⟩,
      @Holds.sequent .ascii ⟨[], []⟩ ['\t'] [] (.inr rfl) (by simp [Sequent.names])
        (List.forall_mem_singleton.mpr (by decide)) (by simp), by decide, by decide⟩
  have isName : ∀ n ∈ (Sequent.mk [.var "A"] [.var "A"]).names, IsName n := by
    intro n member
    obtain rfl : n = "A" := by simpa [Sequent.names, Formula.names] using member
    exact ⟨'A', [], by decide, by decide, by decide⟩
  let identity : Line := .ofSequent (.inl rfl) ⟨[.var "A"], [.var "A"]⟩ isName
  have chars : text [(comment, .returnFeed), (blank, .feed), (empty, .returnFeed)] (some identity) =
      "#1\r\n\u00a0\n\t>\r\nA ⊦ A".toList := by
    rfl
  constructor
  · refine (load_reads_lines _ "s").1 [(comment, .returnFeed), (blank, .feed), (empty, .returnFeed)]
      (some identity) ?_
    rw [chars, String.ofList_toList]
    exact stored _
  · have named : ∀ s ∈ [Sequent.mk [] [], ⟨[.var "A"], [.var "A"]⟩], ∀ n ∈ s.names, IsName n := by
      simpa [Sequent.names] using isName
    obtain ⟨saved, found, loaded, entries, complete, same⟩ :=
      (load_reads_lines ⟨[], []⟩ "s").2 .ascii [⟨[], []⟩, ⟨[.var "A"], [.var "A"]⟩] (.inr rfl) named
        (by decide +kernel) _ (made _)
    exact ⟨_, found, saved, loaded, entries, complete, same⟩

end SequentFile

end Turnstile

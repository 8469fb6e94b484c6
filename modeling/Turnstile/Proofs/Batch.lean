import Mathlib.Data.List.Forall2
import Turnstile.CommandLine.Run
import Turnstile.Proofs.SequentLines
import Turnstile.Proofs.Validity

/-! Proving all sequents of a file. One line that is no sequent keeps everything else from being
printed or saved, and the first such line is complained about. Otherwise every sequent gets a line
with the truth about it, the valid ones are counted, and the exit code tells whether all are. -/
namespace Turnstile

/-- A text in the language of sequents, with its meaning. -/
def Grammar.Means (chars : List Char) (s : Sequent) : Prop :=
  ∃ ts, Spells chars ts ∧ WrittenSequent ts s

theorem Sequent.parse_ofList_eq_ok_iff {line : List Char} {s : Sequent} :
    parse (String.ofList line) = .ok s ↔ Grammar.Means line s := by
  rw [parse_eq_ok_iff, String.toList_ofList]
  rfl

theorem Sequent.exists_error_iff {line : List Char} :
    (∃ e, parse (String.ofList line) = .error e) ↔ ∀ s, ¬Grammar.Means line s := by
  constructor
  · rintro ⟨e, refused⟩ s means
    cases refused.symm.trans (parse_ofList_eq_ok_iff.mpr means)
  · intro none
    cases parsed : parse (String.ofList line) with
    | error e => exact ⟨e, rfl⟩
    | ok s => exact (none s (parse_ofList_eq_ok_iff.mp parsed)).elim

namespace SequentFile

open Grammar

/-- The lines that are to be read, with their numbers, the first line having a given one. -/
def readableFrom (first : Nat) (lines : List (List Char)) : List (Nat × List Char) :=
  (lines.zipIdx first).filterMap fun (line, number) =>
    if Skipped line then none else some (number, line)

/-- The lines of a file that are to be read, with their numbers. -/
def readableLines (content : String) : List (Nat × List Char) :=
  readableFrom 1 (Text.splitLines content.toList)

/-- A line that is to be read, and the sequent of the same number that it means. -/
def ReadAs (line : Nat × List Char) (entry : Nat × Sequent) : Prop :=
  line.1 = entry.1 ∧ Means line.2 entry.2

variable {line : List Char} {number : Nat} {lines : List (List Char)}

theorem readableFrom_cons_of_skipped (skipped : Skipped line) (number : Nat)
    (lines : List (List Char)) :
    readableFrom number (line :: lines) = readableFrom (number + 1) lines := by
  simp [readableFrom, skipped]

theorem readableFrom_cons (visible : ¬Skipped line) (number : Nat) (lines : List (List Char)) :
    readableFrom number (line :: lines) = (number, line) :: readableFrom (number + 1) lines := by
  simp [readableFrom, visible]

/-- A scan stops at the first line that is to be read and cannot be. -/
theorem scanLines_stop {earlier later : List (Nat × List Char)} {e : SyntaxError} {place : Nat}
    (parts : readableFrom number lines = earlier ++ (place, line) :: later)
    (fine : ∀ before ∈ earlier, ∃ s, Means before.2 s)
    (refused : Sequent.parse (String.ofList line) = .error e) :
    (scanLines number lines).stop = some ⟨place, e⟩ := by
  induction lines generalizing number earlier with
  | nil => simp [readableFrom] at parts
  | cons first lines ih =>
    by_cases skipped : Skipped first
    · rw [readableFrom_cons_of_skipped skipped] at parts
      rw [scanLines_cons_of_skipped skipped]
      exact ih parts fine
    · rw [readableFrom_cons skipped] at parts
      cases earlier with
      | nil =>
        obtain ⟨⟨rfl, rfl⟩, rfl⟩ : (number = place ∧ first = line) ∧ _ = later := by
          simpa using parts
        rw [scanLines_cons_of_error skipped refused]
      | cons before earlier =>
        obtain ⟨rfl, rest⟩ : (number, first) = before ∧ _ = earlier ++ (place, line) :: later := by
          simpa using parts
        obtain ⟨s, means⟩ := fine (number, first) (by simp)
        rw [scanLines_cons_of_parsed (Sequent.parse_ofList_eq_ok_iff.mpr means)]
        exact ih rest fun before member => fine before (by simp [member])

/-- A scan is complete if all lines that are to be read can be. -/
theorem scanLines_complete {entries : List (Nat × Sequent)}
    (read : List.Forall₂ ReadAs (readableFrom number lines) entries) :
    scanLines number lines = ⟨entries, none⟩ := by
  induction lines generalizing number entries with
  | nil =>
    cases read
    rfl
  | cons first lines ih =>
    by_cases skipped : Skipped first
    · rw [readableFrom_cons_of_skipped skipped] at read
      rw [scanLines_cons_of_skipped skipped, ih read]
    · rw [readableFrom_cons skipped] at read
      obtain ⟨⟨place, s⟩, rest, ⟨rfl, means⟩, others, rfl⟩ := List.forall₂_cons_left_iff.mp read
      rw [scanLines_cons_of_parsed (Sequent.parse_ofList_eq_ok_iff.mpr means), ih others]

theorem exists_entries {read : List (Nat × List Char)} (fine : ∀ line ∈ read, ∃ s, Means line.2 s) :
    ∃ entries, List.Forall₂ ReadAs read entries := by
  induction read with
  | nil => exact ⟨[], .nil⟩
  | cons line read ih =>
    obtain ⟨s, means⟩ := fine line (by simp)
    obtain ⟨entries, others⟩ := ih fun line member => fine line (by simp [member])
    exact ⟨(line.1, s) :: entries, .cons ⟨rfl, means⟩ others⟩

/-- Among lines of which some cannot be read there is a first one. -/
theorem exists_first_error {read : List (Nat × List Char)}
    (bad : ∃ line ∈ read, ∀ s, ¬Means line.2 s) :
    ∃ earlier place line later, read = earlier ++ (place, line) :: later ∧
      (∀ before ∈ earlier, ∃ s, Means before.2 s) ∧ ∀ s, ¬Means line s := by
  induction read with
  | nil => simp at bad
  | cons first read ih =>
    by_cases fine : ∃ s, Means first.2 s
    · have later : ∃ line ∈ read, ∀ s, ¬Means line.2 s := by
        obtain ⟨line, member, none⟩ := bad
        rcases List.mem_cons.mp member with rfl | later
        · exact (fine.elim none).elim
        · exact ⟨line, later, none⟩
      obtain ⟨earlier, place, line, after, rfl, before, none⟩ := ih later
      exact ⟨first :: earlier, place, line, after, rfl,
        List.forall_mem_cons.mpr ⟨fine, before⟩, none⟩
    · exact ⟨[], first.1, first.2, read, rfl, by simp, by simpa using fine⟩

end SequentFile

theorem Workspace.present_of_load {w : Workspace} {path : String} {bytes : ByteArray}
    (stored : w.load path = .ok bytes) : w.present path = .ok true := by
  unfold load at stored
  unfold present
  cases found : w.target path with
  | error e =>
    rw [found] at stored
    cases stored
  | ok target =>
    rw [found] at stored
    cases target with
    | file parts content => rfl
    | directory => rfl
    | vacant parts => cases stored

namespace CommandLine

/-- The truth about a sequent of a file, with the number of its line. -/
def verdictLine (f : Format) (entry : Nat × Sequent) : String :=
  Log.pad false 4 (toString entry.1) ++ "  " ++ (if entry.2.Valid then "✓" else "✗") ++ "  " ++
    f.write entry.2

/-- All lines on the sequents of a file. The valid ones are counted last. -/
def verdictLines (f : Format) (entries : List (Nat × Sequent)) : List String :=
  entries.map (verdictLine f) ++
    ["", toString (entries.countP fun entry => entry.2.Valid) ++ "/" ++ toString entries.length ++
      " provable"]

/-- The exit code for the sequents of a file. -/
def verdictCode (entries : List (Nat × Sequent)) : Nat :=
  if ∀ entry ∈ entries, entry.2.Valid then 0 else 2

namespace Setup

/-- The sequents of a file with their proof trees. -/
def deriveAll (setup : Setup) (found : List (Nat × Sequent)) : List Entry :=
  found.map fun entry => ⟨entry.1, entry.2, entry.2.derive setup.rules⟩

variable {setup : Setup}

theorem log_of_hidden (hidden : setup.layout = none) (records : List LogRecord) :
    setup.log records = [] := by
  rw [log, hidden]

section

variable (backward : setup.rules = Rule.priority)
include backward

theorem isProved_eq_valid (s : Sequent) : (s.derive setup.rules).isProved = decide s.Valid := by
  rw [backward, Bool.eq_iff_iff, decide_eq_true_iff]
  exact Sequent.isProved_iff_valid Rule.mem_priority

theorem map_entryLine (found : List (Nat × Sequent)) :
    (setup.deriveAll found).map setup.entryLine = found.map (verdictLine setup.format) := by
  simp [deriveAll, entryLine, verdictLine, isProved_eq_valid backward]

theorem countP_isProved (found : List (Nat × Sequent)) :
    (setup.deriveAll found).countP (·.derivation.isProved) =
      found.countP fun entry => entry.2.Valid := by
  simp [deriveAll, List.countP_map, Function.comp_def, isProved_eq_valid backward]

theorem all_isProved (found : List (Nat × Sequent)) :
    (setup.deriveAll found).all (·.derivation.isProved) =
      decide (∀ entry ∈ found, entry.2.Valid) := by
  rw [Bool.eq_iff_iff, decide_eq_true_iff]
  simp [deriveAll, isProved_eq_valid backward]

/-- What is said of a file of sequents is the truth about them. -/
theorem reportScan_of_complete (found : List (Nat × Sequent)) :
    (setup.reportScan ⟨found, none⟩).out = verdictLines setup.format found ∧
      (∃ text, (setup.reportScan ⟨found, none⟩).product = some text) ∧
      (setup.reportScan ⟨found, none⟩).status.exitCode = verdictCode found ∧
      (setup.layout = none → (setup.reportScan ⟨found, none⟩).err = []) := by
  refine ⟨?_, ⟨_, rfl⟩, ?_, fun hidden => log_of_hidden hidden _⟩
  · change (setup.deriveAll found).map setup.entryLine ++ ["", summary (setup.deriveAll found)] = _
    have size : (setup.deriveAll found).length = found.length := by simp [deriveAll]
    rw [map_entryLine backward, summary, countP_isProved backward, size]
    rfl
  · change (Status.ofProved ((setup.deriveAll found).all (·.derivation.isProved))).exitCode = _
    rw [all_isProved backward, verdictCode]
    by_cases all : ∀ entry ∈ found, entry.2.Valid
    · rw [if_pos all, decide_eq_true all]
      rfl
    · rw [if_neg all, decide_eq_false all]
      rfl

end

/-- One line that cannot be read leaves nothing to say but the complaint about it. -/
theorem reportScan_of_stop {scan : SequentFile.Scan} {place : Nat} {e : SyntaxError}
    (stop : scan.stop = some ⟨place, e⟩) :
    setup.reportScan scan =
      { status := .refused, out := [], product := none,
        err := setup.log scan.log ++ ["Syntax error: Line " ++ toString place ++ ": " ++
          e.complaint.message ++ " (column " ++ toString (e.position + 1) ++ ")"] } := by
  have joined : "Syntax error: " ++ "Line " = "Syntax error: Line " := by decide
  rw [← joined]
  simp only [reportScan, SequentFile.Scan.complete, stop, SequentFile.LineError.diagnostic,
    String.append_assoc]

end Setup

variable {w w' : Workspace} {options : Options} {report : Report}

theorem run_conclude_of_nothing (place : String → String) (notice : String)
    (nothing : report.product = none ∨ options.json.filter (· ≠ "") = none) :
    (conclude options report place notice : StateM Workspace _).run w =
      (⟨.exit (report.status.exitCode), report.out, report.err⟩, w) := by
  unfold conclude
  rcases nothing with unmade | unasked
  · rw [unmade]
    cases options.json.filter (· ≠ "") <;> rfl
  · rw [unasked]
    rfl

theorem run_conclude_of_save {text target : String} (place : String → String) (notice : String)
    (made : report.product = some text) (asked : options.json.filter (· ≠ "") = some target)
    (saved : w.save (place target) text.toUTF8 = .ok w') :
    (conclude options report place notice : StateM Workspace _).run w =
      (⟨.exit (report.status.exitCode),
        report.out ++ [notice ++ " saved to " ++ target], report.err⟩, w') := by
  unfold conclude
  rw [made, asked]
  simp only [Workspace.run_bind, Workspace.run_saveText saved]
  rfl

theorem run_conclude_of_error {text target : String} {e : FileError} (place : String → String)
    (notice : String) (made : report.product = some text)
    (asked : options.json.filter (· ≠ "") = some target)
    (failed : w.save (place target) text.toUTF8 = .error e) :
    (conclude options report place notice : StateM Workspace _).run w =
      (⟨.failed (.unread (.file e)), report.out, report.err⟩, w) := by
  unfold conclude
  rw [made, asked]
  simp only [Workspace.run_bind, Workspace.run_saveText_of_error failed]
  rfl

theorem run_proveFile {setup : Setup} {path content : String}
    (stored : w.load path = .ok content.toUTF8) :
    (proveFile options setup path : StateM Workspace _).run w =
      (conclude options (setup.reportScan (SequentFile.scan content)) id "Derivations" :
        StateM Workspace _).run w := by
  unfold proveFile
  rw [Workspace.run_bind, SequentFile.run_load stored]

/-- A file that exists is proved, with the record of its opening before all others. -/
theorem run_performFile {setup : Setup} {path : String} (there : w.present path = .ok true) :
    (performFile options setup path : StateM Workspace _).run w =
      (((proveFile options setup path : StateM Workspace _).run w).1.behind
        (setup.log [openingRecord path]),
        ((proveFile options setup path : StateM Workspace _).run w).2) := by
  unfold performFile
  rw [Workspace.run_bind, Workspace.run_present, there]
  rfl

open SequentFile Grammar

/-- A file with a line that is neither blank nor a comment nor a sequent is refused: nothing is
printed but the complaint about the first such line, and no file is changed. For any other file the
truth about its sequents is printed, in their order. What is asked for besides is saved after that,
and only if it cannot be saved is there no exit code. A program that finds the file does just that
and has the record of its opening before all others. -/
theorem proveFile_verdicts {options : Options} {setup : Setup} {w : Workspace}
    {path content : String} {result : Outcome × Workspace}
    (backward : setup.rules = Rule.priority) (stored : w.load path = .ok content.toUTF8)
    (ran : (proveFile options setup path : StateM Workspace _).run w = result) :
    ((∃ line ∈ readableLines content, ∀ s, ¬Means line.2 s) →
      ∃ earlier number line later e logged,
        readableLines content = earlier ++ (number, line) :: later ∧
        (∀ before ∈ earlier, ∃ s, Means before.2 s) ∧ (∀ s, ¬Means line s) ∧
        Sequent.parse (String.ofList line) = .error e ∧ (setup.layout = none → logged = []) ∧
        result = (⟨.exit 1, [], logged ++ ["Syntax error: Line " ++ toString number ++ ": " ++
          e.complaint.message ++ " (column " ++ toString (e.position + 1) ++ ")"]⟩, w)) ∧
    ((∀ line ∈ readableLines content, ∃ s, Means line.2 s) →
      ∃ entries logged,
        List.Forall₂ ReadAs (readableLines content) entries ∧ (setup.layout = none → logged = []) ∧
        (options.json.filter (· ≠ "") = none →
          result = (⟨.exit (verdictCode entries), verdictLines setup.format entries, logged⟩, w)) ∧
        ∀ target, options.json.filter (· ≠ "") = some target → ∃ text : String,
          (∀ w', w.save target text.toUTF8 = .ok w' →
            result = (⟨.exit (verdictCode entries),
              verdictLines setup.format entries ++ ["Derivations saved to " ++ target],
              logged⟩, w')) ∧
          ∀ e, w.save target text.toUTF8 = .error e →
            result = (⟨.failed (.unread (.file e)), verdictLines setup.format entries, logged⟩,
              w)) ∧
    (performFile options setup path : StateM Workspace _).run w =
      (result.1.behind (setup.log [openingRecord path]), result.2) := by
  have concluded := @run_proveFile w options setup path content stored
  refine ⟨fun bad => ?_, fun fine => ?_, ?_⟩
  · obtain ⟨earlier, number, line, later, parts, fine, none⟩ := exists_first_error bad
    obtain ⟨e, refused⟩ := Sequent.exists_error_iff.mpr none
    have stop : (scan content).stop = some ⟨number, e⟩ := scanLines_stop parts fine refused
    refine ⟨earlier, number, line, later, e, setup.log (scan content).log, parts, fine, none,
      refused, fun hidden => Setup.log_of_hidden hidden _, ?_⟩
    rw [← ran, concluded, Setup.reportScan_of_stop stop, run_conclude_of_nothing id _ (.inl rfl)]
    rfl
  · obtain ⟨entries, read⟩ := exists_entries fine
    have complete : scan content = ⟨entries, none⟩ := scanLines_complete read
    obtain ⟨out, ⟨text, made⟩, code, quiet⟩ := Setup.reportScan_of_complete backward entries
    rw [complete] at concluded
    rw [← ran, concluded]
    refine ⟨entries, (setup.reportScan ⟨entries, none⟩).err, read, quiet, fun unasked => ?_,
      fun target asked => ⟨text, fun w' saved => ?_, fun e failed => ?_⟩⟩
    · rw [run_conclude_of_nothing id _ (.inr unasked), code, out]
    · rw [run_conclude_of_save id _ made asked saved, code, out]
      rfl
    · rw [run_conclude_of_error id _ made asked failed, out]
  · rw [run_performFile (Workspace.present_of_load stored), ran]

/-- A valid sequent behind a comment, and a file whose second line hides that the first is valid. -/
theorem proveFile_one_stray_parenthesis :
    (proveFile {} ⟨.unicode, Rule.priority, false, none⟩ "s" : StateM Workspace _).run
        ⟨[(["s"], "#\n> A | !A".toUTF8)], []⟩ =
      (⟨.exit 0, ["   2  ✓  ∅ ⊦ A ∨ (¬A)", "", "1/1 provable"], []⟩,
        ⟨[(["s"], "#\n> A | !A".toUTF8)], []⟩) ∧
    (proveFile { json := some "j" } ⟨.unicode, Rule.priority, false, none⟩ "s" :
        StateM Workspace _).run ⟨[(["s"], "A > A\n)".toUTF8)], []⟩ =
      (⟨.exit 1, [], ["Syntax error: Line 2: Binary operator without second operand (column 1)"]⟩,
        ⟨[(["s"], "A > A\n)".toUTF8)], []⟩) := by
  have stored (bytes : ByteArray) : (Workspace.mk [(["s"], bytes)] []).load "s" = .ok bytes := by
    with_unfolding_all rfl
  constructor
  · have lines : readableLines "#\n> A | !A" = [(2, "> A | !A".toList)] := by decide
    have middle : Sequent.parse (String.ofList "> A | !A".toList) =
        .ok ⟨[], [.disj (.var "A") (.neg (.var "A"))]⟩ := by decide +kernel
    have fine : ∀ line ∈ readableLines "#\n> A | !A", ∃ s, Means line.2 s := by
      rw [lines]
      exact List.forall_mem_singleton.mpr ⟨_, Sequent.parse_ofList_eq_ok_iff.mp middle⟩
    generalize ran : StateT.run _ _ = result
    obtain ⟨entries, logged, read, hidden, shown, _⟩ :=
      (proveFile_verdicts (by rfl) (stored _) ran).2.1 fine
    rw [lines] at read
    obtain ⟨⟨place, s⟩, rest, ⟨rfl, means⟩, others, rfl⟩ := List.forall₂_cons_left_iff.mp read
    obtain rfl := List.forall₂_nil_left_iff.mp others
    cases middle.symm.trans (Sequent.parse_ofList_eq_ok_iff.mpr means)
    rw [shown rfl, hidden rfl]
    exact Prod.ext (by decide +kernel) rfl
  · have lines : readableLines "A > A\n)" = [(1, "A > A".toList), (2, ")".toList)] := by decide
    have first : Sequent.parse (String.ofList "A > A".toList) = .ok ⟨[.var "A"], [.var "A"]⟩ := by
      decide +kernel
    have second : Sequent.parse (String.ofList ")".toList) = .error ⟨.missingOperand, 0⟩ := by
      decide +kernel
    have bad : ∃ line ∈ readableLines "A > A\n)", ∀ s, ¬Means line.2 s :=
      ⟨(2, ")".toList), by simp [lines], Sequent.exists_error_iff.mp ⟨_, second⟩⟩
    generalize ran : StateT.run _ _ = result
    obtain ⟨earlier, number, line, later, e, logged, parts, _, none, refused, hidden, shown⟩ :=
      (proveFile_verdicts (by rfl) (stored _) ran).1 bad
    rw [lines] at parts
    rcases earlier with _ | ⟨before, _ | ⟨other, earlier⟩⟩
    · cases parts
      exact (none _ (Sequent.parse_ofList_eq_ok_iff.mp first)).elim
    · cases parts
      cases second.symm.trans refused
      rw [shown, hidden rfl]
      exact Prod.ext (by decide +kernel) rfl
    · simp at parts

end CommandLine

end Turnstile

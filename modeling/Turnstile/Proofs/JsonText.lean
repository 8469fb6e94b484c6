import Turnstile.Json.Reader
import Turnstile.Json.Writer

/-! The lexemes of JSON texts. What is written for a value falls into that value's lexemes,
whatever the layout and whatever follows it, and in ASCII mode it holds ASCII characters
only. Texts may hold surrogates. These are written as they are, and joined by the reader where
two of them make a pair. -/
namespace Turnstile

theorem Text.hexDigits_four (n : Nat) :
    hexDigits 4 n = [hexDigit (n / 16 / 16 / 16 % 16), hexDigit (n / 16 / 16 % 16),
      hexDigit (n / 16 % 16), hexDigit (n % 16)] := rfl

namespace Json

open Text

theorem hexValue?_hexDigit : ∀ n < 16, hexValue? (hexDigit n) = some n := by
  decide

theorem hexCode?_hexDigits {n : Nat} (bound : n < 0x10000) :
    hexCode? (hexDigit (n / 16 / 16 / 16 % 16)) (hexDigit (n / 16 / 16 % 16))
      (hexDigit (n / 16 % 16)) (hexDigit (n % 16)) = some n := by
  have value (m : Nat) : hexValue? (hexDigit (m % 16)) = some (m % 16) :=
    hexValue?_hexDigit _ (Nat.mod_lt _ (by decide))
  simp only [hexCode?, value, Option.bind_eq_bind, Option.bind_some, Option.pure_def,
    Option.some.injEq]
  omega

theorem toNat_isValidChar (c : Char) : c.toNat.isValidChar :=
  c.valid

theorem toNat_lt (c : Char) : c.toNat < 0x110000 := by
  rcases toNat_isValidChar c with low | ⟨_, high⟩ <;> omega

theorem isHighSurrogate_toNat (c : Char) : isHighSurrogate c.toNat = false := by
  rcases toNat_isValidChar c with low | ⟨high, _⟩ <;> simp [isHighSurrogate] <;> omega

theorem toNat_ofNat {code : Nat} (valid : code.isValidChar) : (Char.ofNat code).toNat = code := by
  rw [Char.ofNat, dif_pos valid]
  rfl

theorem joinPairs_of_pair {high low : Nat} (first : isHighSurrogate high = true)
    (second : isLowSurrogate low = true) (rest : List Nat) :
    joinPairs (high :: low :: rest) = joinSurrogates high low :: joinPairs rest := by
  simp [joinPairs, first, second]

theorem joinPairs_of_not_high {code : Nat} (other : isHighSurrogate code = false)
    (rest : List Nat) : joinPairs (code :: rest) = code :: joinPairs rest := by
  cases rest with
  | nil => rfl
  | cons next rest => simp [joinPairs, other]

theorem joinPairs_of_not_low {next : Nat} (other : isLowSurrogate next = false) (code : Nat)
    (rest : List Nat) : joinPairs (code :: next :: rest) = code :: joinPairs (next :: rest) := by
  simp [joinPairs, other]

theorem isLowSurrogate_of_isHighSurrogate {code : Nat} (high : isHighSurrogate code = true) :
    isLowSurrogate code = false := by
  simp only [isHighSurrogate, isLowSurrogate, Bool.and_eq_true, Bool.and_eq_false_iff,
    decide_eq_true_eq, decide_eq_false_iff_not] at high ⊢
  omega

theorem le_joinSurrogates (high low : Nat) : 0x10000 ≤ joinSurrogates high low := by
  unfold joinSurrogates
  omega

theorem isHighSurrogate_joinSurrogates (high low : Nat) :
    isHighSurrogate (joinSurrogates high low) = false := by
  have beyond := le_joinSurrogates high low
  simp only [isHighSurrogate, Bool.and_eq_false_iff, decide_eq_false_iff_not]
  omega

theorem isLowSurrogate_joinSurrogates (high low : Nat) :
    isLowSurrogate (joinSurrogates high low) = false := by
  have beyond := le_joinSurrogates high low
  simp only [isLowSurrogate, Bool.and_eq_false_iff, decide_eq_false_iff_not]
  omega

/-- The codes that may be read for a code point: itself, or two surrogates that it is the join
of. -/
inductive Denote : List Nat → Nat → Prop where
  | itself (code : Nat) : Denote [code] code
  | pair {high low : Nat} : isHighSurrogate high = true → isLowSurrogate low = true →
      Denote [high, low] (joinSurrogates high low)

/-- The codes that may be read for a text of code points. -/
inductive Spells : List Nat → List Nat → Prop where
  | nil : Spells [] []
  | cons {units codes others : List Nat} {code : Nat} : Denote units code → Spells others codes →
      Spells (units ++ others) (code :: codes)

/-- It makes no difference to the joining of surrogates how code points were spelt. The induction
needs this behind any code too, since that may be the first half of a pair. -/
theorem Spells.joinPairs_eq {units codes : List Nat} (spells : Spells units codes) :
    joinPairs units = joinPairs codes ∧
      ∀ before, joinPairs (before :: units) = joinPairs (before :: codes) := by
  induction spells with
  | nil => exact ⟨rfl, fun _ => rfl⟩
  | @cons _ codes others _ denotes _ ih =>
    obtain ⟨alone, behind⟩ := ih
    cases denotes with
    | itself =>
      refine ⟨behind _, fun before => ?_⟩
      rw [List.singleton_append, joinPairs, joinPairs, alone, behind]
    | @pair high low first second =>
      have joined : joinPairs ([high, low] ++ others) =
          joinPairs (joinSurrogates high low :: codes) := by
        rw [joinPairs_of_not_high (isHighSurrogate_joinSurrogates high low), ← alone]
        exact joinPairs_of_pair first second others
      refine ⟨joined, fun before => ?_⟩
      rw [joinPairs_of_not_low (isLowSurrogate_joinSurrogates high low), ← joined]
      exact joinPairs_of_not_low (isLowSurrogate_of_isHighSurrogate first) before _

theorem joinPairs_map_toNat (chars : List Char) :
    joinPairs (chars.map Char.toNat) = chars.map Char.toNat := by
  induction chars with
  | nil => rfl
  | cons c chars ih => rw [List.map_cons, joinPairs_of_not_high (isHighSurrogate_toNat c), ih]

theorem isHighSurrogate_of_lt {n : Nat} (bound : n < 0x400) :
    isHighSurrogate (0xd800 + n) = true := by
  simp only [isHighSurrogate, Bool.and_eq_true, decide_eq_true_iff]
  omega

theorem isLowSurrogate_of_lt {n : Nat} (bound : n < 0x400) :
    isLowSurrogate (0xdc00 + n) = true := by
  simp only [isLowSurrogate, Bool.and_eq_true, decide_eq_true_iff]
  omega

theorem joinSurrogates_div_mod {code : Nat} (beyond : 0x10000 ≤ code) :
    joinSurrogates (0xd800 + (code - 0x10000) / 0x400) (0xdc00 + (code - 0x10000) % 0x400) =
      code := by
  unfold joinSurrogates
  omega

/-- Characters inside quotes that are read as some codes, whatever follows them. -/
def Scans (chars : List Char) (codes : List Nat) : Prop :=
  ∀ rest, scanText (chars ++ rest) = (scanText rest).map fun r => (codes ++ r.1, r.2)

theorem Scans.append {p q : List Char} {codes others : List Nat} (first : Scans p codes)
    (second : Scans q others) : Scans (p ++ q) (codes ++ others) := by
  intro rest
  rw [List.append_assoc, first, second, Option.map_map]
  simp [Function.comp_def]

theorem scans_escapeUnit {n : Nat} (bound : n < 0x10000) : Scans (escapeUnit n) [n] := by
  intro rest
  simp only [escapeUnit, hexDigits_four, List.cons_append, List.nil_append]
  rw [scanText, hexCode?_hexDigits bound]
  rfl

theorem scans_shortEscape {e c : Char} (short : shortEscape? e = some c) :
    Scans ['\\', e] [c.toNat] := by
  intro rest
  rw [List.cons_append, List.singleton_append, scanText, short]
  · rfl
  · rintro _ _ _ _ _ rfl
    cases short

/-- A character that is neither a quote nor a backslash nor a control character stands for
itself. -/
theorem scans_plain {c : Char} (quote : c ≠ '"') (backslash : c ≠ '\\')
    (printed : 0x20 ≤ c.toNat) : Scans [c] [c.toNat] := by
  intro rest
  have plain : (decide (c.toNat < 0x20) || c == '\\') = false := by
    simp [backslash, printed]
  rw [List.singleton_append, scanText, plain]
  · rfl
  · exact quote
  · rintro _ _ _ _ _ rfl
    exact (backslash rfl).elim
  · rintro _ _ rfl
    exact (backslash rfl).elim

theorem exists_scans_escapeCode {code : Nat} (bound : code < 0x110000) :
    ∃ units, Scans (escapeCode code) units ∧ Denote units code := by
  unfold escapeCode
  split
  · rename_i basic
    exact ⟨_, scans_escapeUnit basic, .itself code⟩
  · rename_i beyond
    have high : (code - 0x10000) / 0x400 < 0x400 := by omega
    have low : (code - 0x10000) % 0x400 < 0x400 := by omega
    have pair := Denote.pair (isHighSurrogate_of_lt high) (isLowSurrogate_of_lt low)
    rw [joinSurrogates_div_mod (by omega)] at pair
    exact ⟨_, (scans_escapeUnit (by omega)).append (scans_escapeUnit (by omega)), pair⟩

theorem exists_scans_escapeChar (asciiOnly : Bool) (c : Char) :
    ∃ units, Scans (escapeChar asciiOnly c) units ∧ Denote units c.toNat := by
  unfold escapeChar
  split
  case h_8 quote backslash _ _ _ _ _ =>
    split
    · exact exists_scans_escapeCode (toNat_lt c)
    · rename_i plain
      simp only [Bool.or_eq_true, decide_eq_true_eq, not_or, Nat.not_lt] at plain
      exact ⟨_, scans_plain quote backslash plain.1, .itself _⟩
  -- The other characters have an escape of two characters.
  all_goals exact ⟨_, scans_shortEscape rfl, .itself _⟩

theorem exists_scans_escapePoint (asciiOnly : Bool) {code : Nat} (bound : code < 0x110000) :
    ∃ units, Scans (escapePoint asciiOnly code) units ∧ Denote units code := by
  unfold escapePoint
  split
  · rename_i valid
    have scans := exists_scans_escapeChar asciiOnly (Char.ofNat code)
    rwa [toNat_ofNat valid] at scans
  · rename_i invalid
    have basic : code < 0x10000 := by
      simp only [Nat.isValidChar] at invalid
      omega
    exact ⟨_, scans_escapeUnit basic, .itself code⟩

/-- What is written between the quotes of a text is read as a spelling of its code points. -/
theorem exists_scans_points (asciiOnly : Bool) {codes : List Nat}
    (bounded : ∀ code ∈ codes, code < 0x110000) :
    ∃ units, Scans (codes.flatMap (escapePoint asciiOnly)) units ∧ Spells units codes := by
  induction codes with
  | nil => exact ⟨[], fun rest => by simp, .nil⟩
  | cons code codes ih =>
    obtain ⟨bound, others⟩ := List.forall_mem_cons.mp bounded
    obtain ⟨first, scansFirst, denotes⟩ := exists_scans_escapePoint asciiOnly bound
    obtain ⟨units, scansUnits, spells⟩ := ih others
    refine ⟨first ++ units, ?_, .cons denotes spells⟩
    rw [List.flatMap_cons]
    exact scansFirst.append scansUnits

theorem ofCodes_map_toNat (chars : List Char) :
    Scalar.ofCodes (chars.map Char.toNat) = .text (String.ofList chars) := by
  have valid : (chars.map Char.toNat).all (fun code => decide code.isValidChar) = true := by
    simp [List.all_map, toNat_isValidChar]
  rw [Scalar.ofCodes, if_pos valid, List.map_map]
  simp [Function.comp_def]

theorem writeText_eq (asciiOnly : Bool) (s : String) :
    writeText asciiOnly s = writeBroken asciiOnly (s.toList.map Char.toNat) := by
  have point (c : Char) : escapePoint asciiOnly c.toNat = escapeChar asciiOnly c := by
    rw [escapePoint, if_pos (toNat_isValidChar c), Char.ofNat_toNat]
  simp [writeText, writeBroken, List.flatMap_map, point]

theorem scanLexeme_writeBroken (asciiOnly : Bool) {codes : List Nat}
    (bounded : ∀ code ∈ codes, code < 0x110000) (rest : List Char) :
    scanLexeme ((writeBroken asciiOnly codes).toList ++ rest) =
      (.scalar (.ofCodes (joinPairs codes)), rest) := by
  obtain ⟨units, scans, spells⟩ := exists_scans_points asciiOnly bounded
  have body := scans ('"' :: rest)
  rw [scanText, Option.map_some, List.append_nil] at body
  have chars : (writeBroken asciiOnly codes).toList ++ rest =
      '"' :: (codes.flatMap (escapePoint asciiOnly) ++ '"' :: rest) := by
    simp [writeBroken]
  rw [chars, scanLexeme, body, ← spells.joinPairs_eq.1]

theorem lex_space {c : Char} (space : isSpace c = true) (rest : List Char) :
    lex (c :: rest) = lex rest := by
  rw [lex, if_pos space]

theorem lex_lexeme {c : Char} {rest after : List Char} {lexeme : Lexeme}
    (visible : isSpace c = false) (scanned : scanLexeme (c :: rest) = (lexeme, after))
    (readable : lexeme ≠ .malformed) (short : ∀ digits, lexeme ≠ .tooLong digits) :
    lex (c :: rest) = lexeme :: lex after := by
  rw [lex, visible]
  split <;> simp_all

/-- A text that is read as some lexemes, whatever follows it. -/
def Writes (text : String) (lexemes : List Lexeme) : Prop :=
  ∀ rest, lex (text.toList ++ rest) = lexemes ++ lex rest

namespace Writes

variable {p q : String} {ls ms : List Lexeme}

theorem nothing : Writes "" [] :=
  fun _ => rfl

theorem append (first : Writes p ls) (second : Writes q ms) : Writes (p ++ q) (ls ++ ms) := by
  intro rest
  rw [String.toList_append, List.append_assoc, first, second, List.append_assoc]

theorem blank : Writes " " [] :=
  fun rest => lex_space rfl rest

theorem newline (width level : Nat) : Writes (Json.newline width level) [] := by
  intro rest
  have blanks (n : Nat) : lex (List.replicate n ' ' ++ rest) = lex rest := by
    induction n with
    | zero => rfl
    | succ n ih => rw [List.replicate_succ, List.cons_append, lex_space rfl, ih]
  rw [Json.newline, String.toList_ofList, List.cons_append, lex_space rfl, blanks]
  rfl

/-- A text that is one lexeme. -/
theorem of_scanLexeme {c : Char} {tail : List Char} {l : Lexeme} (chars : p.toList = c :: tail)
    (visible : isSpace c = false) (scanned : ∀ rest, scanLexeme (c :: (tail ++ rest)) = (l, rest))
    (readable : l ≠ .malformed) (short : ∀ digits, l ≠ .tooLong digits) : Writes p [l] := by
  intro rest
  rw [chars, List.cons_append, lex_lexeme visible (scanned rest) readable short]
  rfl

theorem broken (asciiOnly : Bool) {codes : List Nat}
    (bounded : ∀ code ∈ codes, code < 0x110000) :
    Writes (writeBroken asciiOnly codes) [.scalar (.ofCodes (joinPairs codes))] := by
  refine of_scanLexeme (String.toList_ofList) rfl (fun rest => ?_) nofun nofun
  simpa [writeBroken] using scanLexeme_writeBroken asciiOnly bounded rest

theorem text (asciiOnly : Bool) (s : String) :
    Writes (writeText asciiOnly s) [.scalar (.text s)] := by
  have written := broken asciiOnly (List.forall_mem_map.mpr fun c (_ : c ∈ s.toList) => toNat_lt c)
  rwa [← writeText_eq, joinPairs_map_toNat, ofCodes_map_toNat, String.ofList_toList] at written

theorem intercalate {separator : String} (separates : Writes separator [.comma])
    (parts : List (String × List Lexeme)) (written : ∀ part ∈ parts, Writes part.1 part.2) :
    Writes (separator.intercalate (parts.map Prod.fst))
      ([.comma].intercalate (parts.map Prod.snd)) := by
  induction parts with
  | nil => simpa using nothing
  | cons part parts ih =>
    have first := written part (by simp)
    cases parts with
    | nil => simpa using first
    | cons next parts =>
      have rest := ih fun other member => written other (by simp_all)
      have joined := (first.append separates).append rest
      simpa [List.intercalate_cons_cons] using joined

end Writes

/-- What stands before the first part of a value and behind its last one. -/
def gap (style : Style) (level : Nat) : String :=
  match style.indentation with
  | none => ""
  | some width => newline width level

theorem enclose_eq {parts : List String} (style : Style) (level : Nat) (opening closing : String)
    (nonempty : parts ≠ []) :
    enclose style level opening closing parts =
      opening ++ gap style (level + 1) ++ (separator style (level + 1)).intercalate parts ++
        gap style level ++ closing := by
  rw [enclose, if_neg (by simpa using nonempty)]
  cases indentation : style.indentation <;> simp [gap, separator, indentation]

theorem Writes.gap (style : Style) (level : Nat) : Writes (gap style level) [] := by
  unfold Json.gap
  split
  · exact .nothing
  · exact .newline _ _

theorem Writes.separator (style : Style) (level : Nat) :
    Writes (separator style level) [.comma] := by
  have comma : Writes "," [.comma] :=
    .of_scanLexeme (show ",".toList = [','] from rfl) rfl (fun _ => rfl) nofun nofun
  unfold Json.separator
  split
  · exact comma.append .blank
  · exact comma.append (.newline _ _)

theorem Writes.enclose {opening closing : String} {first last : Lexeme} (style : Style)
    (level : Nat) (opens : Writes opening [first]) (closes : Writes closing [last])
    (parts : List (String × List Lexeme)) (written : ∀ part ∈ parts, Writes part.1 part.2) :
    Writes (enclose style level opening closing (parts.map Prod.fst))
      (first :: [.comma].intercalate (parts.map Prod.snd) ++ [last]) := by
  by_cases empty : parts = []
  · subst empty
    simpa [Json.enclose] using opens.append closes
  · rw [enclose_eq style level opening closing (by simpa using empty)]
    have inner := Writes.intercalate (.separator style (level + 1)) parts written
    simpa using (((opens.append (.gap style (level + 1))).append inner).append
      (.gap style level)).append closes

mutual

/-- The lexemes of a value. A text is read with its surrogates joined. -/
def lexemes : Json → List Lexeme
  | null => [.scalar .null]
  | bool b => [.scalar (.bool b)]
  | number n => [.scalar (.number n)]
  | real literal => [.scalar (.real literal)]
  | text s => [.scalar (.text s)]
  | broken codes => [.scalar (.ofCodes (joinPairs codes))]
  | array items => .openArray :: [.comma].intercalate (itemLexemes items) ++ [.closeArray]
  | object fields => .openObject :: [.comma].intercalate (fieldLexemes fields) ++ [.closeObject]

def itemLexemes : List Json → List (List Lexeme)
  | [] => []
  | item :: rest => lexemes item :: itemLexemes rest

def fieldLexemes : List (String × Json) → List (List Lexeme)
  | [] => []
  | (key, value) :: rest => (.scalar (.text key) :: .colon :: lexemes value) :: fieldLexemes rest

end

/-- A value of texts, truth values and nulls, in arrays and in objects with distinct names. -/
inductive Verbal : Json → Prop where
  | null : Verbal null
  | bool (b : Bool) : Verbal (bool b)
  | text (s : String) : Verbal (text s)
  | broken {codes : List Nat} : (∀ code ∈ codes, code < 0x110000) → Verbal (broken codes)
  | array {items : List Json} : (∀ item ∈ items, Verbal item) → Verbal (array items)
  | object {fields : List (String × Json)} : (Fields.names fields).Nodup →
      (∀ field ∈ fields, Verbal field.2) → Verbal (object fields)

theorem itemLexemes_eq_map (items : List Json) : itemLexemes items = items.map lexemes := by
  induction items with
  | nil => rfl
  | cons item rest ih => rw [itemLexemes, ih, List.map_cons]

theorem writeItems_eq_map (style : Style) (level : Nat) (items : List Json) :
    writeItems style level items = items.map (write style level) := by
  induction items with
  | nil => rfl
  | cons item rest ih => rw [writeItems, ih, List.map_cons]

/-- The text of a field. -/
def writeField (style : Style) (level : Nat) (field : String × Json) : String :=
  writeText style.asciiOnly field.1 ++ ": " ++ write style level field.2

theorem writeFields_eq_map (style : Style) (level : Nat) (fields : List (String × Json)) :
    writeFields style level fields = fields.map (writeField style level) := by
  induction fields with
  | nil => rfl
  | cons field rest ih => rw [writeFields, ih, List.map_cons, writeField]

def lexemesOfField (field : String × Json) : List Lexeme :=
  .scalar (.text field.1) :: .colon :: lexemes field.2

theorem fieldLexemes_eq_map (fields : List (String × Json)) :
    fieldLexemes fields = fields.map lexemesOfField := by
  induction fields with
  | nil => rfl
  | cons field rest ih => rw [fieldLexemes, ih, List.map_cons, lexemesOfField]

theorem Verbal.writes {j : Json} (verbal : Verbal j) (style : Style) (level : Nat) :
    Writes (write style level j) (lexemes j) := by
  induction verbal generalizing level with
  | null =>
    exact .of_scanLexeme (show "null".toList = 'n' :: ['u', 'l', 'l'] from rfl) rfl (fun _ => rfl)
      nofun nofun
  | bool b =>
    cases b with
    | true =>
      exact .of_scanLexeme (show "true".toList = 't' :: ['r', 'u', 'e'] from rfl) rfl
        (fun _ => rfl) nofun nofun
    | false =>
      exact .of_scanLexeme (show "false".toList = 'f' :: ['a', 'l', 's', 'e'] from rfl) rfl
        (fun _ => rfl) nofun nofun
  | text s => exact .text style.asciiOnly s
  | broken bounded => exact .broken style.asciiOnly bounded
  | @array items _ ih =>
    rw [write, lexemes, writeItems_eq_map, itemLexemes_eq_map]
    have written := Writes.enclose style level
      (.of_scanLexeme (show "[".toList = ['['] from rfl) rfl (fun _ => rfl) nofun nofun)
      (.of_scanLexeme (show "]".toList = [']'] from rfl) rfl (fun _ => rfl) nofun nofun)
      (items.map fun item => (write style (level + 1) item, lexemes item))
      (List.forall_mem_map.mpr fun item member => ih item member (level + 1))
    simpa [Function.comp_def] using written
  | @object fields _ _ ih =>
    rw [write, lexemes, writeFields_eq_map, fieldLexemes_eq_map]
    have colon : Writes ": " [.colon] := Writes.append
      (.of_scanLexeme (show ":".toList = [':'] from rfl) rfl (fun _ => rfl) nofun nofun)
      .blank
    have each (field : String × Json) (member : field ∈ fields) :
        Writes (writeField style (level + 1) field) (lexemesOfField field) :=
      ((Writes.text style.asciiOnly field.1).append colon).append (ih field member (level + 1))
    have written := Writes.enclose style level
      (.of_scanLexeme (show "\x7b".toList = ['\x7b'] from rfl) rfl (fun _ => rfl) nofun nofun)
      (.of_scanLexeme (show "\x7d".toList = ['\x7d'] from rfl) rfl (fun _ => rfl) nofun nofun)
      (fields.map fun field => (writeField style (level + 1) field, lexemesOfField field))
      (List.forall_mem_map.mpr each)
    simpa [Function.comp_def] using written

/-- A text of ASCII characters. -/
def Ascii (text : String) : Prop :=
  ∀ c ∈ text.toList, c.toNat < 128

theorem hexDigit_ascii : ∀ n < 16, (hexDigit n).toNat < 128 := by
  decide

theorem escapeUnit_ascii (n : Nat) : ∀ c ∈ escapeUnit n, c.toNat < 128 := by
  have digit (m : Nat) : (hexDigit (m % 16)).toNat < 128 :=
    hexDigit_ascii _ (Nat.mod_lt _ (by decide))
  have marks : '\\'.toNat < 128 ∧ 'u'.toNat < 128 := by decide
  simp only [escapeUnit, hexDigits_four, List.forall_mem_cons, digit, marks]
  simp

theorem escapeChar_ascii (c : Char) : ∀ d ∈ escapeChar true c, d.toNat < 128 := by
  unfold escapeChar
  split
  case h_8 =>
    split
    · unfold escapeCode
      split
      · exact escapeUnit_ascii _
      · exact List.forall_mem_append.mpr ⟨escapeUnit_ascii _, escapeUnit_ascii _⟩
    · rename_i plain
      simp only [Bool.true_and, Bool.or_eq_true, decide_eq_true_eq, not_or] at plain
      intro d member
      rw [List.mem_singleton.mp member]
      omega
  all_goals simp

theorem escapePoint_ascii (code : Nat) : ∀ d ∈ escapePoint true code, d.toNat < 128 := by
  unfold escapePoint
  split
  · exact escapeChar_ascii _
  · exact escapeUnit_ascii _

namespace Ascii

variable {p q : String}

theorem append (first : Ascii p) (second : Ascii q) : Ascii (p ++ q) := by
  unfold Ascii
  rw [String.toList_append]
  exact List.forall_mem_append.mpr ⟨first, second⟩

theorem broken (codes : List Nat) : Ascii (writeBroken true codes) := by
  have body : ∀ c ∈ codes.flatMap (escapePoint true), c.toNat < 128 := by
    intro c member
    obtain ⟨code, _, escaped⟩ := List.mem_flatMap.mp member
    exact escapePoint_ascii code c escaped
  have quote : ∀ c ∈ ['"'], c.toNat < 128 := by simp
  rw [Ascii, writeBroken, String.toList_ofList, List.cons_append]
  exact List.forall_mem_cons.mpr ⟨by decide, List.forall_mem_append.mpr ⟨body, quote⟩⟩

theorem text (s : String) : Ascii (writeText true s) := by
  rw [writeText_eq]
  exact broken _

theorem newline (width level : Nat) : Ascii (Json.newline width level) := by
  rw [Ascii, Json.newline, String.toList_ofList]
  refine List.forall_mem_cons.mpr ⟨by decide, fun c member => ?_⟩
  rw [List.eq_of_mem_replicate member]
  decide

theorem gap (style : Style) (level : Nat) : Ascii (Json.gap style level) := by
  unfold Json.gap
  split
  · exact nofun
  · exact .newline _ _

theorem separator (style : Style) (level : Nat) : Ascii (Json.separator style level) := by
  unfold Json.separator
  split
  · simp [Ascii]
  · exact append (by simp [Ascii]) (.newline _ _)

theorem intercalate (between : Ascii p) (parts : List String) (each : ∀ part ∈ parts, Ascii part) :
    Ascii (p.intercalate parts) := by
  induction parts with
  | nil => simp [Ascii]
  | cons part parts ih =>
    have first := each part (by simp)
    cases parts with
    | nil => simpa using first
    | cons next parts =>
      have rest := ih fun other member => each other (by simp_all)
      simpa using (first.append between).append rest

theorem enclose (style : Style) (level : Nat) (opens : Ascii p) (closes : Ascii q)
    (parts : List String) (each : ∀ part ∈ parts, Ascii part) :
    Ascii (Json.enclose style level p q parts) := by
  by_cases empty : parts = []
  · subst empty
    simpa [Json.enclose] using opens.append closes
  · rw [enclose_eq style level p q empty]
    exact (((opens.append (.gap _ _)).append (.intercalate (.separator _ _) parts each)).append
      (.gap _ _)).append closes

end Ascii

theorem Verbal.ascii {j : Json} (verbal : Verbal j) (indentation : Option Nat) (level : Nat) :
    Ascii (write ⟨indentation, true⟩ level j) := by
  induction verbal generalizing level with
  | null => simp [write, Ascii]
  | bool b => cases b <;> simp [write, Ascii]
  | text s => exact .text s
  | broken _ => exact .broken _
  | @array items _ ih =>
    rw [write, writeItems_eq_map]
    refine .enclose _ _ (by simp [Ascii]) (by simp [Ascii]) _ ?_
    exact List.forall_mem_map.mpr fun item member => ih item member (level + 1)
  | @object fields _ _ ih =>
    rw [write, writeFields_eq_map]
    refine .enclose _ _ (by simp [Ascii]) (by simp [Ascii]) _ ?_
    exact List.forall_mem_map.mpr fun field member =>
      ((Ascii.text field.1).append (by simp [Ascii])).append (ih field member (level + 1))

end Json

end Turnstile

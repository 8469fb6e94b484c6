import Turnstile.Proofs.Encoding

/-! Names of any code points. A string has no surrogates, but a name that is read from a JSON
text may have them. The text of a sequent is ASCII whatever its names are. It is read back with
every high surrogate joined to a low one directly behind it, so that the sequent itself comes
back just if there is no such pair. -/
namespace Turnstile

variable {α β : Type}

/-- A text of any code points, surrogates among them. -/
structure CodeText where
  codes : List Nat
  bounded : ∀ code ∈ codes, code < 0x110000
  deriving DecidableEq

namespace Json

/-- Somewhere a high surrogate is directly followed by a low one. -/
def Paired (codes : List Nat) : Prop :=
  ∃ high low, isHighSurrogate high = true ∧ isLowSurrogate low = true ∧ [high, low] <:+: codes

theorem paired_cons_cons (code next : Nat) (rest : List Nat) :
    Paired (code :: next :: rest) ↔
      (isHighSurrogate code && isLowSurrogate next) = true ∨ Paired (next :: rest) := by
  have split (high low : Nat) : [high, low] <:+: code :: next :: rest ↔
      (high = code ∧ low = next) ∨ [high, low] <:+: next :: rest := by
    rw [List.infix_cons_iff, List.cons_prefix_cons, List.cons_prefix_cons]
    simp
  constructor
  · rintro ⟨high, low, first, second, inside⟩
    rcases (split high low).mp inside with ⟨rfl, rfl⟩ | behind
    · exact .inl (by simp [first, second])
    · exact .inr ⟨high, low, first, second, behind⟩
  · rintro (both | ⟨high, low, first, second, behind⟩)
    · obtain ⟨first, second⟩ := Bool.and_eq_true_iff.mp both
      exact ⟨code, next, first, second, (split code next).mpr (.inl ⟨rfl, rfl⟩)⟩
    · exact ⟨high, low, first, second, (split high low).mpr (.inr behind)⟩

theorem length_joinPairs_le (codes : List Nat) : (joinPairs codes).length ≤ codes.length := by
  fun_induction joinPairs codes with
  | case1 high low rest _ ih | case2 high low rest _ ih =>
    simp only [List.length_cons] at ih ⊢
    omega
  | case3 => exact Nat.le_refl _

/-- Only a pair is changed by joining, since it makes the list shorter. -/
theorem joinPairs_eq_self_iff (codes : List Nat) : joinPairs codes = codes ↔ ¬Paired codes := by
  fun_induction joinPairs codes with
  | case1 high low rest both ih =>
    have shorter := length_joinPairs_le rest
    have paired : Paired (high :: low :: rest) := (paired_cons_cons _ _ _).mpr (.inl both)
    refine iff_of_false (fun same => ?_) (not_not_intro paired)
    have lengths := congrArg List.length same
    simp only [List.length_cons] at lengths
    omega
  | case2 high low rest apart ih =>
    rw [List.cons.injEq, paired_cons_cons, ih]
    simp [apart]
  | case3 codes short =>
    refine iff_of_true rfl ?_
    rintro ⟨high, low, _, _, before, after, rfl⟩
    cases before with
    | nil => exact short high low after rfl
    | cons code before =>
      cases before with
      | nil => exact short code high (low :: after) rfl
      | cons next before => exact short code next _ rfl

theorem joinSurrogates_lt {high low : Nat} (first : isHighSurrogate high = true)
    (second : isLowSurrogate low = true) : joinSurrogates high low < 0x110000 := by
  simp only [isHighSurrogate, isLowSurrogate, Bool.and_eq_true, decide_eq_true_eq] at first second
  unfold joinSurrogates
  omega

theorem joinPairs_lt {codes : List Nat} (bounded : ∀ code ∈ codes, code < 0x110000) :
    ∀ code ∈ joinPairs codes, code < 0x110000 := by
  fun_induction joinPairs codes with
  | case1 high low rest both ih =>
    obtain ⟨first, second⟩ := Bool.and_eq_true_iff.mp both
    simp only [List.forall_mem_cons] at bounded
    exact List.forall_mem_cons.mpr ⟨joinSurrogates_lt first second, ih bounded.2.2⟩
  | case2 high low rest _ ih =>
    obtain ⟨bound, others⟩ := List.forall_mem_cons.mp bounded
    exact List.forall_mem_cons.mpr ⟨bound, ih others⟩
  | case3 => exact bounded

theorem map_toNat_map_ofNat {codes : List Nat}
    (valid : codes.all (fun code => decide code.isValidChar) = true) :
    (codes.map Char.ofNat).map Char.toNat = codes := by
  rw [List.map_map]
  refine (List.map_congr_left fun code member => ?_).trans (List.map_id codes)
  exact toNat_ofNat (of_decide_eq_true (List.all_eq_true.mp valid code member))

theorem joined_ofCodes (codes : List Nat) :
    (Scalar.ofCodes codes).joined = .ofCodes (joinPairs codes) := by
  by_cases valid : codes.all (fun code => decide code.isValidChar) = true
  · have kept := joinPairs_map_toNat (codes.map Char.ofNat)
    rw [map_toNat_map_ofNat valid] at kept
    rw [kept, Scalar.ofCodes, if_pos valid]
    rfl
  · rw [Scalar.ofCodes, if_neg valid]
    rfl

theorem ofCodes_injective {codes others : List Nat}
    (same : Scalar.ofCodes codes = Scalar.ofCodes others) : codes = others := by
  unfold Scalar.ofCodes at same
  split at same <;> split at same
  case isTrue.isTrue valid validOthers =>
    have chars := String.ofList_injective (Scalar.text.inj same)
    rw [← map_toNat_map_ofNat valid, chars, map_toNat_map_ofNat validOthers]
  case isFalse.isFalse => exact Scalar.broken.inj same
  all_goals cases same

theorem fold_ofScalar {ε : Type} (b : Builder ε α) (s : Scalar) :
    fold b (ofScalar s) = .ok (b.scalar s) := by
  cases s <;> rfl

def ofCodeText (name : CodeText) : Json :=
  ofScalar (.ofCodes name.codes)

theorem verbal_ofCodeText (name : CodeText) : (ofCodeText name).Verbal := by
  unfold ofCodeText Scalar.ofCodes
  split
  · exact .text _
  · exact .broken name.bounded

end Json

namespace CodeText

def ofString (s : String) : CodeText :=
  ⟨s.toList.map Char.toNat, List.forall_mem_map.mpr fun c _ => Json.toNat_lt c⟩

/-- The text with its pairs of surrogates joined. -/
def joined (name : CodeText) : CodeText :=
  ⟨Json.joinPairs name.codes, Json.joinPairs_lt name.bounded⟩

theorem joined_eq_self_iff (name : CodeText) : name.joined = name ↔ ¬Json.Paired name.codes := by
  rw [← Json.joinPairs_eq_self_iff, joined, CodeText.mk.injEq]

theorem ofCodeText_ofString (s : String) : Json.ofCodeText (ofString s) = .text s := by
  rw [Json.ofCodeText, ofString, Json.ofCodes_map_toNat, String.ofList_toList]
  rfl

end CodeText

namespace Formula

theorem rename_eq_self_iff {r : α → α} (a : Formula α) :
    a.rename r = a ↔ ∀ n ∈ a.names, r n = n := by
  induction a with
  | var n => simp [rename, names]
  | neg a ih => simp [rename, names, ih]
  | conj a b first second | disj a b first second =>
    simp [rename, names, first, second, or_imp, forall_and]

theorem toJson_rename (name : β → Json) (r : α → β) (a : Formula α) :
    (a.rename r).toJson name = a.toJson fun n => name (r n) := by
  induction a <;> simp_all [rename, toJson]

end Formula

namespace Sequent

theorem rename_eq_self_iff {r : α → α} (s : Sequent α) :
    s.rename r = s ↔ ∀ n ∈ s.names, r n = n := by
  have side (as : List (Formula α)) :
      as.map (·.rename r) = as ↔ ∀ n ∈ as.flatMap Formula.names, r n = n := by
    induction as with
    | nil => simp
    | cons a as ih =>
      rw [List.map_cons, List.cons.injEq, ih, a.rename_eq_self_iff, List.flatMap_cons,
        List.forall_mem_append]
  obtain ⟨left, right⟩ := s
  rw [rename, names, Sequent.mk.injEq, side, side, List.forall_mem_append]

theorem encode_rename_ofString (s : Sequent) (indentation : Option Nat) :
    (s.rename CodeText.ofString).encode Json.ofCodeText indentation =
      s.encode .text indentation := by
  simp only [encode, toJson, rename, List.map_map, Function.comp_def, Formula.toJson_rename,
    CodeText.ofCodeText_ofString]

end Sequent

namespace Document

def ofCodeText (name : CodeText) : Document :=
  ofScalar (.ofCodes name.codes)

theorem same_ofScalar_ofCodes (codes others : List Nat) :
    same (ofScalar (.ofCodes codes)) (ofScalar (.ofCodes others)) = true ↔ codes = others := by
  refine ⟨fun equal => Json.ofCodes_injective ?_, fun equal => ?_⟩
  · revert equal
    unfold Json.Scalar.ofCodes
    split <;> split <;> simp [ofScalar, same]
  · subst equal
    unfold Json.Scalar.ofCodes
    split <;> simp [ofScalar, same]

theorem same_ofCodeText (m n : CodeText) :
    same (ofCodeText m) (ofCodeText n) = true ↔ m = n := by
  obtain ⟨codes, _⟩ := m
  obtain ⟨others, _⟩ := n
  simp [ofCodeText, same_ofScalar_ofCodes]

theorem ofFormula_rename (name : β → Document) (r : α → β) (a : Formula α) :
    ofFormula name (a.rename r) = ofFormula (fun n => name (r n)) a := by
  induction a <;> simp_all [Formula.rename, ofFormula]

theorem ofSequent_rename (name : β → Document) (r : α → β) (s : Sequent α) :
    ofSequent name (s.rename r) = ofSequent (fun n => name (r n)) s := by
  simp [ofSequent, Sequent.rename, List.map_map, Function.comp_def, ofFormula_rename]

theorem fold_ofCodeText (v : Vocabulary) (name : CodeText) :
    Json.fold (builder v).joining (Json.ofCodeText name) = .ok (ofCodeText name.joined) := by
  rw [Json.ofCodeText, Json.fold_ofScalar, ofCodeText, CodeText.joined, ← Json.joined_ofCodes]
  rfl

theorem toJson_ofCodeText (v : Vocabulary) (name : CodeText) :
    toJson v (ofCodeText name) = .ok (Json.ofCodeText name) := by
  unfold ofCodeText Json.ofCodeText
  cases Json.Scalar.ofCodes name.codes <;> rfl

section

variable {v : Vocabulary} {shown : α → Document} {name : α → Json}

/-- The encoding of the document that is made of a formula is that of the formula. -/
theorem toJson_ofFormula (encoded : ∀ n, toJson v (shown n) = .ok (name n)) (a : Formula α) :
    toJson v (ofFormula shown a) = .ok (a.toJson name) := by
  induction a with
  | var n =>
    rw [ofFormula, toJson, encoded]
    rfl
  | neg a ih =>
    rw [ofFormula, toJson, ih]
    rfl
  | conj a b first second | disj a b first second =>
    rw [ofFormula, toJson, first, second]
    rfl

theorem itemsJson_map_ofFormula (encoded : ∀ n, toJson v (shown n) = .ok (name n))
    (as : List (Formula α)) :
    itemsJson v (as.map (ofFormula shown)) = .ok (as.map (Formula.toJson name)) := by
  induction as with
  | nil => rfl
  | cons a as ih => rw [List.map_cons, itemsJson, toJson_ofFormula encoded, ih, List.map_cons]

theorem encode_ofSequent (encoded : ∀ n, toJson v (shown n) = .ok (name n)) (s : Sequent α)
    (indentation : Option Nat) :
    encode v ⟨indentation, true⟩ (ofSequent shown s) = .ok (s.encode name indentation) := by
  rw [encode, ofSequent, toJson, itemsJson_map_ofFormula encoded, itemsJson_map_ofFormula encoded]
  rfl

end

end Document

namespace Sequent

theorem decode_encode_joined (s : Sequent CodeText) (indentation : Option Nat) :
    Document.decode .sequents (s.encode Json.ofCodeText indentation) =
      .ok (.ofSequent .ofCodeText (s.rename CodeText.joined)) := by
  rw [Document.ofSequent_rename]
  exact (s.verbal_toJson Json.verbal_ofCodeText).read_render ⟨indentation, true⟩
    (Document.fold_sequent (Document.fold_ofCodeText .sequents) s)

/-- The text of a sequent is plain ASCII, whatever code points its names have and in every
layout, and is the text of the sequent as a document. It is decoded to the sequent with all
pairs of surrogates joined; to the sequent itself just if none of its names has one. The
equality of documents tells different sequents apart. Where names are strings, the text is the
same as with their code points for names. -/
theorem decode_encode (s : Sequent CodeText) (indentation : Option Nat) :
    (∀ c ∈ (s.encode Json.ofCodeText indentation).toList, c.toNat < 128) ∧
      Document.encode .sequents ⟨indentation, true⟩ (.ofSequent .ofCodeText s) =
        .ok (s.encode Json.ofCodeText indentation) ∧
      Document.decode .sequents (s.encode Json.ofCodeText indentation) =
        .ok (.ofSequent .ofCodeText (s.rename CodeText.joined)) ∧
      (Document.decode .sequents (s.encode Json.ofCodeText indentation) =
          .ok (.ofSequent .ofCodeText s) ↔
        ∀ name ∈ s.names, ¬Json.Paired name.codes) ∧
      (∀ other : Sequent CodeText,
        Document.same (.ofSequent .ofCodeText s) (.ofSequent .ofCodeText other) = true ↔
          s = other) ∧
      ∀ t : Sequent, (t.rename CodeText.ofString).encode Json.ofCodeText indentation =
        t.encode .text indentation := by
  have faithful := Document.same_ofSequent Document.same_ofCodeText
  refine ⟨(s.verbal_toJson Json.verbal_ofCodeText).ascii indentation 0,
    Document.encode_ofSequent (Document.toJson_ofCodeText .sequents) s indentation,
    s.decode_encode_joined indentation, ?_, faithful s,
    fun t => t.encode_rename_ofString indentation⟩
  have unchanged : s.rename CodeText.joined = s ↔ ∀ name ∈ s.names, ¬Json.Paired name.codes := by
    simp only [rename_eq_self_iff, CodeText.joined_eq_self_iff]
  rw [s.decode_encode_joined indentation, ← unchanged, Except.ok.injEq]
  refine ⟨fun equal => (faithful _ _).mp ?_, fun equal => by rw [equal]⟩
  rw [equal]
  exact (faithful s s).mpr rfl

/-- A variable whose name is a pair of surrogates. -/
def pairOfSurrogates : Sequent CodeText :=
  ⟨[.var ⟨[0xd83d, 0xde00], by decide⟩], []⟩

/-- A name of two surrogates comes back as one character. -/
theorem decode_encode_pair :
    Document.decode .sequents (pairOfSurrogates.encode Json.ofCodeText (some 2)) =
        .ok (.sequent [.var (.text "😀")] []) ∧
      Document.same (.sequent [.var (.text "😀")] []) (.ofSequent .ofCodeText pairOfSurrogates) =
        false := by
  rw [decode_encode_joined]
  exact ⟨rfl, rfl⟩

end Sequent

end Turnstile

import Turnstile.Proofs.JsonText

/-! Reading JSON texts back. What a builder makes of a value, once the surrogates in its texts
are joined, is what it makes of the value's lexemes one by one, and so of its text. -/
namespace Turnstile

namespace Fields

variable {α : Type}

theorem set_of_not_mem {fields : Fields α} {key : String} (value : α)
    (new : key ∉ fields.names) : fields.set key value = fields ++ [(key, value)] := by
  induction fields with
  | nil => rfl
  | cons field rest ih =>
    simp only [names, List.map_cons, List.mem_cons, not_or] at new
    rw [set, if_neg (Ne.symm new.1), ih new.2, List.cons_append]

theorem foldl_set_of_nodup (before pairs : Fields α) (distinct : (names (before ++ pairs)).Nodup) :
    pairs.foldl (fun fields (key, value) => set fields key value) before = before ++ pairs := by
  induction pairs generalizing before with
  | nil => simp
  | cons pair rest ih =>
    obtain ⟨key, value⟩ := pair
    have new : key ∉ before.names := by
      simp only [names, List.map_append, List.map_cons, List.nodup_append] at distinct
      exact fun member => distinct.2.2 key member key (by simp) rfl
    have further := ih (before ++ [(key, value)]) (by simpa using distinct)
    have grown : before.set key value = before ++ [(key, value)] := set_of_not_mem value new
    rw [List.foldl_cons]
    simpa [grown] using further

theorem ofPairs_of_nodup {pairs : Fields α} (distinct : pairs.names.Nodup) :
    ofPairs pairs = pairs :=
  foldl_set_of_nodup [] pairs distinct

end Fields

namespace Json

variable {ε α : Type} {b : Builder ε α}

theorem run_cons {state next : State α} {l : Lexeme} (stepped : step b state l = .ok next)
    (rest : List Lexeme) : run b state (l :: rest) = run b next rest := by
  rw [run, stepped]

theorem fold_text (s : String) : fold b (text s) = .ok (b.scalar (.text s)) := rfl

theorem foldItems_nil : foldItems b [] = .ok [] := rfl

theorem foldItems_cons {item : Json} {rest : List Json} {v : α} {others : List α}
    (first : fold b item = .ok v) (folded : foldItems b rest = .ok others) :
    foldItems b (item :: rest) = .ok (v :: others) := by
  rw [foldItems, first, folded]
  rfl

theorem foldItems_map {β : Type} {f : β → Json} {g : β → α} (xs : List β)
    (each : ∀ x, fold b (f x) = .ok (g x)) : foldItems b (xs.map f) = .ok (xs.map g) := by
  induction xs with
  | nil => rfl
  | cons x xs ih => exact foldItems_cons (each x) ih

theorem fold_array {items : List Json} {values : List α}
    (folded : foldItems b items = .ok values) : fold b (array items) = .ok (b.array values) := by
  rw [fold, folded]
  rfl

theorem foldFields_nil : foldFields b [] = .ok [] := rfl

theorem foldFields_cons {key : String} {value : Json} {rest : List (String × Json)} {v : α}
    {others : List (String × α)} (first : fold b value = .ok v)
    (folded : foldFields b rest = .ok others) :
    foldFields b ((key, value) :: rest) = .ok ((key, v) :: others) := by
  rw [foldFields, first, folded]
  rfl

theorem fold_object {fields : List (String × Json)} {values : List (String × α)}
    (folded : foldFields b fields = .ok values) : fold b (object fields) = b.object values := by
  rw [fold, folded]
  rfl

theorem foldItems_cons_eq_ok {item : Json} {rest : List Json} {values : List α}
    (folded : foldItems b (item :: rest) = .ok values) :
    ∃ v others, fold b item = .ok v ∧ foldItems b rest = .ok others ∧ values = v :: others := by
  rw [foldItems] at folded
  split at folded
  · cases folded
  · rename_i v first
    cases others : foldItems b rest with
    | error e =>
      rw [others] at folded
      cases folded
    | ok vs =>
      rw [others] at folded
      cases folded
      exact ⟨v, vs, first, rfl, rfl⟩

theorem foldFields_cons_eq_ok {key : String} {value : Json} {rest : List (String × Json)}
    {values : List (String × α)} (folded : foldFields b ((key, value) :: rest) = .ok values) :
    ∃ v others, fold b value = .ok v ∧ foldFields b rest = .ok others ∧
      values = (key, v) :: others := by
  rw [foldFields] at folded
  split at folded
  · cases folded
  · rename_i v first
    cases others : foldFields b rest with
    | error e =>
      rw [others] at folded
      cases folded
    | ok vs =>
      rw [others] at folded
      cases folded
      exact ⟨v, vs, first, rfl, rfl⟩

/-- The scalar that is read for a scalar. -/
def Scalar.joined : Scalar → Scalar
  | broken codes => ofCodes (joinPairs codes)
  | s => s

/-- The builder that is handed every scalar as it is read. -/
def Builder.joining (b : Builder ε α) : Builder ε α :=
  { b with scalar := fun s => b.scalar s.joined }

/-- A value that a builder makes something of is read as that, wherever a value may stand. -/
def Reads (b : Builder ε α) (j : Json) : Prop :=
  ∀ v stack rest, fold b.joining j = .ok v →
    run b (.value stack) (lexemes j ++ rest) = run b (.after v stack) rest

theorem exists_intercalate_cons {β : Type} (between first : List β) (others : List (List β)) :
    ∃ more, between.intercalate (first :: others) = first ++ more := by
  cases others with
  | nil => exact ⟨[], by simp⟩
  | cons next others => exact ⟨_, by rw [List.intercalate_cons_cons, List.append_assoc]⟩

theorem run_firstItem (j : Json) (stack : List (Frame α)) (rest : List Lexeme) :
    run b (.firstItem stack) (lexemes j ++ rest) =
      run b (.value (.array [] :: stack)) (lexemes j ++ rest) := by
  cases j <;> simp [lexemes, run, step]

theorem run_firstKey (field : String × Json) (stack : List (Frame α)) (rest : List Lexeme) :
    run b (.firstKey stack) (lexemesOfField field ++ rest) =
      run b (.nextKey [] stack) (lexemesOfField field ++ rest) := by
  simp [lexemesOfField, run, step]

/-- Reads the items that are left, from where the next of them starts. -/
theorem run_items {items : List Json} (done : List α) {values : List α}
    {stack : List (Frame α)} {rest : List Lexeme} (each : ∀ item ∈ items, Reads b item)
    (nonempty : items ≠ []) (folded : foldItems b.joining items = .ok values) :
    run b (.value (.array done :: stack))
        ([.comma].intercalate (items.map lexemes) ++ .closeArray :: rest) =
      run b (.after (b.array (done.reverse ++ values)) stack) rest := by
  induction items generalizing done values with
  | nil => exact (nonempty rfl).elim
  | cons item items ih =>
    obtain ⟨v, others, first, tail, rfl⟩ := foldItems_cons_eq_ok folded
    have readItem := each item (by simp) v (.array done :: stack)
    cases items with
    | nil =>
      cases tail
      have closed : step b (.after v (.array done :: stack)) .closeArray =
          .ok (.after (b.array (v :: done).reverse) stack) := rfl
      rw [List.map_singleton, List.intercalate_singleton, readItem _ first, run_cons closed,
        List.reverse_cons]
    | cons next items =>
      have comma : step b (.after v (.array done :: stack)) .comma =
          .ok (.value (.array (v :: done) :: stack)) := rfl
      have further := ih (v :: done) (fun j member => each j (List.mem_cons_of_mem _ member))
        (by simp) tail
      rw [List.map_cons, List.map_cons, List.intercalate_cons_cons, List.append_assoc,
        List.append_assoc, readItem _ first, List.singleton_append, run_cons comma,
        ← List.map_cons, further]
      simp

/-- Reads the fields that are left, from where the next of them starts. -/
theorem run_fields {fields : List (String × Json)} (done : List (String × α))
    {values : List (String × α)} {v : α} {stack : List (Frame α)} {rest : List Lexeme}
    (each : ∀ field ∈ fields, Reads b field.2) (nonempty : fields ≠ [])
    (folded : foldFields b.joining fields = .ok values)
    (closed : b.object (Fields.ofPairs (done.reverse ++ values)) = .ok v) :
    run b (.nextKey done stack)
        ([.comma].intercalate (fields.map lexemesOfField) ++ .closeObject :: rest) =
      run b (.after v stack) rest := by
  induction fields generalizing done values with
  | nil => exact (nonempty rfl).elim
  | cons field fields ih =>
    obtain ⟨key, value⟩ := field
    obtain ⟨w, others, first, tail, rfl⟩ := foldFields_cons_eq_ok folded
    have named : step b (.nextKey done stack) (.scalar (.text key)) =
        .ok (.colon done key stack) := rfl
    have colon : step b (.colon done key stack) .colon =
        .ok (.value (.object done key :: stack)) := rfl
    have readValue := each (key, value) (by simp) w (.object done key :: stack)
    have readField (more : List Lexeme) :
        run b (.nextKey done stack) (lexemesOfField (key, value) ++ more) =
          run b (.after w (.object done key :: stack)) more := by
      rw [lexemesOfField, List.cons_append, List.cons_append, run_cons named, run_cons colon,
        readValue _ first]
    cases fields with
    | nil =>
      cases tail
      have close : step b (.after w (.object done key :: stack)) .closeObject =
          .ok (.after v stack) := by
        simp only [step, closeObject, List.reverse_cons, closed]
      rw [List.map_singleton, List.intercalate_singleton, readField, run_cons close]
    | cons next fields =>
      have comma : step b (.after w (.object done key :: stack)) .comma =
          .ok (.nextKey ((key, w) :: done) stack) := rfl
      have further := ih ((key, w) :: done)
        (fun field member => each field (List.mem_cons_of_mem _ member)) (by simp) tail
        (by simpa using closed)
      rw [List.map_cons, List.map_cons, List.intercalate_cons_cons, List.append_assoc,
        List.append_assoc, readField, List.singleton_append, run_cons comma,
        ← List.map_cons, further]

theorem names_of_foldFields {fields : List (String × Json)} {values : List (String × α)}
    (folded : foldFields b fields = .ok values) : Fields.names values = Fields.names fields := by
  induction fields generalizing values with
  | nil =>
    cases folded
    rfl
  | cons field fields ih =>
    obtain ⟨w, others, _, tail, rfl⟩ := foldFields_cons_eq_ok folded
    simp only [Fields.names, List.map_cons, List.cons.injEq, true_and]
    exact ih tail

theorem Reads.array {items : List Json} (each : ∀ item ∈ items, Reads b item) :
    Reads b (array items) := by
  intro v stack rest folded
  have opened : step b (.value stack) .openArray = .ok (.firstItem stack) := rfl
  rw [lexemes, itemLexemes_eq_map, List.cons_append, List.cons_append, List.append_assoc,
    List.singleton_append, run_cons opened]
  rw [fold] at folded
  cases values : foldItems b.joining items with
  | error e =>
    rw [values] at folded
    cases folded
  | ok vs =>
    rw [values] at folded
    cases folded
    cases items with
    | nil =>
      cases values
      rfl
    | cons item items =>
      obtain ⟨more, starts⟩ := exists_intercalate_cons [.comma] (lexemes item) (items.map lexemes)
      rw [List.map_cons, starts, List.append_assoc, run_firstItem, ← List.append_assoc, ← starts,
        ← List.map_cons, run_items [] each (by simp) values]
      rfl

theorem Reads.object {fields : List (String × Json)} (distinct : (Fields.names fields).Nodup)
    (each : ∀ field ∈ fields, Reads b field.2) : Reads b (object fields) := by
  intro v stack rest folded
  have opened : step b (.value stack) .openObject = .ok (.firstKey stack) := rfl
  rw [lexemes, fieldLexemes_eq_map, List.cons_append, List.cons_append, List.append_assoc,
    List.singleton_append, run_cons opened]
  rw [fold] at folded
  cases values : foldFields b.joining fields with
  | error e =>
    rw [values] at folded
    cases folded
  | ok vs =>
    rw [values] at folded
    -- No name repeats, so the fields are handed over as they were read.
    have made : b.object (Fields.ofPairs vs) = .ok v := by
      rw [Fields.ofPairs_of_nodup (names_of_foldFields values ▸ distinct)]
      exact folded
    cases fields with
    | nil =>
      cases values
      have closed : step b (.firstKey stack) .closeObject = .ok (.after v stack) := by
        simp only [step, closeObject, List.reverse_nil, made]
      rw [List.map_nil, List.intercalate_nil, List.nil_append, run_cons closed]
    | cons field fields =>
      obtain ⟨more, starts⟩ := exists_intercalate_cons [.comma] (lexemesOfField field)
        (fields.map lexemesOfField)
      rw [List.map_cons, starts, List.append_assoc, run_firstKey, ← List.append_assoc, ← starts,
        ← List.map_cons, run_fields [] each (by simp) values made]

theorem Verbal.reads {j : Json} (verbal : Verbal j) : Reads b j := by
  induction verbal with
  | null | bool | text | broken =>
    intro v stack rest folded
    cases folded
    rfl
  | array _ ih => exact .array ih
  | object distinct _ ih => exact .object distinct ih

/-- What a builder makes of a value with its surrogates joined, it makes of the value's text,
however this is laid out. -/
theorem Verbal.read_render {j : Json} (verbal : Verbal j) (style : Style) {v : α}
    (folded : fold b.joining j = .ok v) : read b (j.render style) = .ok v := by
  have written := verbal.writes style 0 []
  have value := verbal.reads v [] [] folded
  rw [List.append_nil] at written
  rw [read, render, written, lex, value]
  rfl

end Json

end Turnstile

import Turnstile.Settings

/-! Laying fields over values. Under each of its names an object either puts a value or goes on with
what the name holds, so all that is to be known is said for one name and then carried along names
that are followed one after another: what an object holds there is found afterwards, and what it
leaves alone is found as before. -/
namespace Turnstile

namespace Yaml

theorem Scalar.same_text (key : Scalar) (name : String) :
    key.same (.text name) = true ↔ key = .text name := by
  have plain : (Scalar.text name).whole? = none := rfl
  unfold same
  rw [plain]
  cases key.whole? <;> simp

namespace Entries

theorem get?_cons (key : Scalar) (value : Value) (entries : Entries) (name : String) :
    get? ((key, value) :: entries) name =
      if key = .text name then some value else get? entries name := by
  unfold get?
  rw [List.find?_cons]
  by_cases hit : key = .text name <;> simp [hit]

theorem set_cons (key : Scalar) (old : Value) (entries : Entries) (name : String) (value : Value) :
    set ((key, old) :: entries) (.text name) value =
      if key = .text name then (key, value) :: entries
      else (key, old) :: set entries (.text name) value := by
  simp only [set, Scalar.same_text]

theorem get?_set_self (entries : Entries) (name : String) (value : Value) :
    get? (set entries (.text name) value) name = some value := by
  induction entries with
  | nil => rw [set, get?_cons, if_pos rfl]
  | cons entry entries ih =>
    obtain ⟨key, old⟩ := entry
    by_cases hit : key = .text name
    · rw [set_cons, if_pos hit, get?_cons, if_pos hit]
    · rw [set_cons, if_neg hit, get?_cons, if_neg hit, ih]

theorem get?_set_of_ne (entries : Entries) {name other : String} (value : Value)
    (apart : other ≠ name) : get? (set entries (.text name) value) other = get? entries other := by
  have differ : Scalar.text name ≠ .text other := by
    intro same
    cases same
    exact apart rfl
  induction entries with
  | nil => rw [set, get?_cons, if_neg differ]
  | cons entry entries ih =>
    obtain ⟨key, old⟩ := entry
    by_cases hit : key = .text name
    · rw [set_cons, if_pos hit, get?_cons, get?_cons, hit, if_neg differ, if_neg differ]
    · rw [set_cons, if_neg hit, get?_cons, get?_cons, ih]

theorem set_of_get? {entries : Entries} {name : String} {value : Value}
    (found : get? entries name = some value) : set entries (.text name) value = entries := by
  induction entries with
  | nil => cases found
  | cons entry entries ih =>
    obtain ⟨key, old⟩ := entry
    rw [get?_cons] at found
    by_cases hit : key = .text name
    · rw [if_pos hit] at found
      cases found
      rw [set_cons, if_pos hit]
    · rw [if_neg hit] at found
      rw [set_cons, if_neg hit, ih found]

end Entries

namespace Value

def isMap : Value → Bool
  | map _ => true
  | _ => false

mutual

/-- Nothing is lost where a value is kept among those of YAML texts. -/
theorem toJson_ofJson : ∀ value : Json, (ofJson value).toJson = value
  | .null | .bool _ | .number _ | .real _ | .text _ | .broken _ => rfl
  | .array items => by rw [ofJson, toJson, itemsJson_ofItems items]
  | .object fields => by rw [ofJson, toJson, entriesJson_ofFields fields]

theorem itemsJson_ofItems : ∀ items : List Json, itemsJson (ofItems items) = items
  | [] => rfl
  | item :: rest => by rw [ofItems, itemsJson, toJson_ofJson item, itemsJson_ofItems rest]

theorem entriesJson_ofFields :
    ∀ fields : List (String × Json), entriesJson (ofFields fields) = fields
  | [] => rfl
  | (name, value) :: rest => by
    rw [ofFields, entriesJson, toJson_ofJson value, entriesJson_ofFields rest]
    rfl

end

end Value

end Yaml

namespace Json

def isObject : Json → Bool
  | object _ => true
  | _ => false

/-- What a value holds under names that are followed through objects. -/
def at? : List String → Json → Option Json
  | [], value => some value
  | name :: names, object fields => (Fields.get? fields name).bind (at? names)
  | _ :: _, _ => none

theorem exists_of_isObject {value : Json} (kind : value.isObject = true) :
    ∃ fields, value = object fields := by
  cases value with
  | object fields => exact ⟨fields, rfl⟩
  | null | bool | number | real | text | broken | array => cases kind

theorem at?_eq_some_of_plain {value held : Json} {names : List String}
    (plain : value.isObject = false) (found : value.at? names = some held) :
    names = [] ∧ value = held := by
  cases names with
  | nil => exact ⟨rfl, Option.some.inj found⟩
  | cons name names =>
    cases value with
    | object => cases plain
    | null | bool | number | real | text | broken | array => cases found

/-- Fields of which no two have the same name, nor have any two in an object among them. -/
inductive WellNamed : Fields Json → Prop where
  | nil : WellNamed []
  | cons {name : String} {value : Json} {rest : Fields Json} :
      (∀ inner, value = .object inner → WellNamed inner) → name ∉ rest.names → WellNamed rest →
        WellNamed ((name, value) :: rest)

theorem WellNamed.plain {name : String} {value : Json} {rest : Fields Json}
    (solid : value.isObject = false) (apart : name ∉ rest.names) (named : WellNamed rest) :
    WellNamed ((name, value) :: rest) := by
  refine .cons ?_ apart named
  rintro inner rfl
  cases solid

theorem WellNamed.object {name : String} {inner rest : Fields Json} (below : WellNamed inner)
    (apart : name ∉ rest.names) (named : WellNamed rest) :
    WellNamed ((name, .object inner) :: rest) := by
  refine .cons ?_ apart named
  intro fields same
  cases same
  exact below

theorem WellNamed.inner {fields inner : Fields Json} {name : String} (named : WellNamed fields)
    (held : fields.get? name = some (.object inner)) : WellNamed inner := by
  induction named with
  | nil => cases held
  | cons below _ _ _ ih =>
    rw [Fields.get?_cons] at held
    split at held
    · exact below inner (Option.some.inj held)
    · exact ih held

end Json

theorem Fields.not_mem_of_get? {α : Type} {fields : Fields α} {name : String}
    (absent : fields.get? name = none) : name ∉ fields.names := by
  rw [get?, Option.map_eq_none_iff, List.find?_eq_none] at absent
  intro member
  obtain ⟨field, here, same⟩ := List.mem_map.mp member
  exact absent field here (decide_eq_true same)

namespace Settings

theorem lookup_cons (name : String) (names : List String) (value : Yaml.Value) :
    lookup (name :: names) value = (lookup [name] value).bind (lookup names) := by
  cases value with
  | scalar | list => rfl
  | map entries =>
    simp only [lookup]
    cases Yaml.Entries.get? entries name <;> rfl

theorem lookup_single (name : String) (entries : Yaml.Entries) :
    lookup [name] (.map entries) = Yaml.Entries.get? entries name := by
  simp only [lookup]
  cases Yaml.Entries.get? entries name <;> rfl

/-- What a name holds after a field is laid over what it held, if anything. -/
def layOver (held : Option Yaml.Value) : Json → Yaml.Value × Option MergeError
  | .object updates => mergeFields (held.getD (.map [])) updates
  | plain => (.ofJson plain, none)

theorem layOver_plain {update : Json} (held : Option Yaml.Value) (plain : update.isObject = false) :
    layOver held update = (.ofJson update, none) := by
  cases update with
  | object => cases plain
  | null | bool | number | real | text | broken | array => rfl

/-- A mapping with something put under a name. -/
def put (entries : Yaml.Entries) (name : String) (held : Yaml.Value) : Yaml.Value :=
  .map (Yaml.Entries.set entries (.text name) held)

theorem lookup_put_self (entries : Yaml.Entries) (name : String) (held : Yaml.Value) :
    lookup [name] (put entries name held) = some held := by
  rw [put, lookup_single, Yaml.Entries.get?_set_self]

theorem lookup_put_of_ne (entries : Yaml.Entries) {name other : String} (held : Yaml.Value)
    (apart : other ≠ name) :
    lookup [other] (put entries name held) = lookup [other] (.map entries) := by
  rw [put, lookup_single, lookup_single, Yaml.Entries.get?_set_of_ne entries held apart]

theorem put_of_lookup {entries : Yaml.Entries} {name : String} {held : Yaml.Value}
    (found : lookup [name] (.map entries) = some held) : put entries name held = .map entries := by
  rw [lookup_single] at found
  rw [put, Yaml.Entries.set_of_get? found]

theorem mergeField_map (entries : Yaml.Entries) (name : String) (update : Json) :
    mergeField (.map entries) name update =
      (put entries name (layOver (lookup [name] (.map entries)) update).1,
        (layOver (lookup [name] (.map entries)) update).2) := by
  rw [lookup_single]
  cases update <;> rfl

theorem mergeField_of_not_map {value : Yaml.Value} (solid : value.isMap = false) (name : String)
    (update : Json) : ∃ e, mergeField value name update = (value, some e) := by
  cases value with
  | map => cases solid
  | scalar | list => cases update <;> exact ⟨_, rfl⟩

theorem mergeFields_map_cons {entries : Yaml.Entries} {name : String} {update : Json}
    {held : Yaml.Value} (laid : layOver (lookup [name] (.map entries)) update = (held, none))
    (rest : Fields Json) :
    mergeFields (.map entries) ((name, update) :: rest) =
      mergeFields (put entries name held) rest := by
  rw [mergeFields, mergeField_map, laid]

/-- All that can become of the first field: the value has no place for it, or its name is settled
and the others go on from there, or it fails where it is laid over what the name holds. -/
theorem mergeFields_cons_cases (value : Yaml.Value) (name : String) (update : Json)
    (rest : Fields Json) :
    (value.isMap = false ∧ ∃ e, mergeFields value ((name, update) :: rest) = (value, some e)) ∨
    ∃ entries held, value = .map entries ∧
      ((layOver (lookup [name] value) update = (held, none) ∧
        mergeFields value ((name, update) :: rest) = mergeFields (put entries name held) rest) ∨
      ∃ e, layOver (lookup [name] value) update = (held, some e) ∧
        mergeFields value ((name, update) :: rest) = (put entries name held, some e)) := by
  cases solid : value.isMap with
  | false =>
    obtain ⟨e, failed⟩ := mergeField_of_not_map solid name update
    refine .inl ⟨rfl, e, ?_⟩
    rw [mergeFields, failed]
  | true =>
    cases value with
    | scalar | list => cases solid
    | map entries =>
      rcases laid : layOver (lookup [name] (.map entries)) update with ⟨held, _ | e⟩
      · exact .inr ⟨entries, held, rfl, .inl ⟨rfl, mergeFields_map_cons laid rest⟩⟩
      · refine .inr ⟨entries, held, rfl, .inr ⟨e, rfl, ?_⟩⟩
        rw [mergeFields, mergeField_map, laid]

theorem mergeFields_cons_eq_ok {value changed : Yaml.Value} {name : String} {update : Json}
    {rest : Fields Json} (merged : mergeFields value ((name, update) :: rest) = (changed, none)) :
    ∃ entries held, value = .map entries ∧ layOver (lookup [name] value) update = (held, none) ∧
      mergeFields (put entries name held) rest = (changed, none) := by
  rcases mergeFields_cons_cases value name update rest with
    ⟨_, e, failed⟩ | ⟨entries, held, map, ⟨laid, same⟩ | ⟨e, _, failed⟩⟩
  · cases merged.symm.trans failed
  · exact ⟨entries, held, map, laid, same.symm.trans merged⟩
  · cases merged.symm.trans failed

/-- A name that no field has holds what it held. -/
theorem lookup_mergeFields_of_not_mem {value changed : Yaml.Value} {fields : Fields Json}
    {name : String} (merged : mergeFields value fields = (changed, none))
    (absent : name ∉ fields.names) : lookup [name] changed = lookup [name] value := by
  induction fields generalizing value with
  | nil =>
    cases merged
    rfl
  | cons field rest ih =>
    obtain ⟨first, update⟩ := field
    obtain ⟨entries, held, rfl, _, others⟩ := mergeFields_cons_eq_ok merged
    simp only [Fields.names, List.map_cons, List.mem_cons, not_or] at absent
    rw [ih others absent.2, lookup_put_of_ne entries held absent.1]

/-- A name that a field has holds what the field makes of what it held. -/
theorem lookup_mergeFields {value changed : Yaml.Value} {fields : Fields Json} {name : String}
    {update : Json} (named : Json.WellNamed fields)
    (merged : mergeFields value fields = (changed, none))
    (field : fields.get? name = some update) :
    ∃ held, layOver (lookup [name] value) update = (held, none) ∧
      lookup [name] changed = some held := by
  induction named generalizing value with
  | nil => cases field
  | @cons other _ rest _ apart _ _ ih =>
    obtain ⟨entries, held, rfl, laid, others⟩ := mergeFields_cons_eq_ok merged
    rw [Fields.get?_cons] at field
    by_cases hit : other = name
    · rw [if_pos hit] at field
      cases field
      subst hit
      -- The fields behind this one have other names, so what it settles stays.
      refine ⟨held, laid, ?_⟩
      rw [lookup_mergeFields_of_not_mem others apart, lookup_put_self]
    · rw [if_neg hit] at field
      obtain ⟨later, laidLater, found⟩ := ih others field
      rw [lookup_put_of_ne entries held (Ne.symm hit)] at laidLater
      exact ⟨later, laidLater, found⟩

/-- A value of an update that is no object is found where the update holds it. -/
theorem lookup_mergeFields_at {value changed : Yaml.Value} {fields : Fields Json}
    {names : List String} {plain : Json} (named : Json.WellNamed fields)
    (merged : mergeFields value fields = (changed, none))
    (held : (Json.object fields).at? names = some plain) (solid : plain.isObject = false) :
    lookup names changed = some (.ofJson plain) := by
  -- Along the names, each object is laid over what was held where it stands.
  induction names generalizing value changed fields with
  | nil =>
    cases held
    cases solid
  | cons name names ih =>
    obtain ⟨update, field, below⟩ := Option.bind_eq_some_iff.mp held
    obtain ⟨settled, laid, found⟩ := lookup_mergeFields named merged field
    rw [lookup_cons, found, Option.bind_some]
    cases kind : update.isObject with
    | false =>
      obtain ⟨rfl, rfl⟩ := Json.at?_eq_some_of_plain kind below
      rw [layOver_plain _ solid] at laid
      cases laid
      rfl
    | true =>
      obtain ⟨inner, rfl⟩ := Json.exists_of_isObject kind
      exact ih (named.inner field) laid below

/-- A route that an update leaves alone: it has no entry there, and on the way there only
objects. -/
def LeavesAlone (update : Json) (names : List String) : Prop :=
  update.at? names = none ∧
    ∀ before held, before <+: names → before ≠ names → update.at? before = some held →
      held.isObject = true

theorem leavesAlone_cons_iff {fields : Fields Json} {name : String} {names : List String} :
    LeavesAlone (.object fields) (name :: names) ↔
      ∀ update, fields.get? name = some update →
        update.isObject = true ∧ LeavesAlone update names := by
  have step : ∀ names, (Json.object fields).at? (name :: names) =
      (fields.get? name).bind (Json.at? names) := fun _ => rfl
  constructor
  · rintro ⟨absent, above⟩ update field
    rw [field] at step
    have below : update.at? names = none := (step names).symm.trans absent
    refine ⟨above [name] update ?_ ?_ (step []), below, ?_⟩
    · exact List.cons_prefix_cons.mpr ⟨rfl, List.nil_prefix⟩
    · intro same
      cases same
      cases below
    · intro before held shorter proper found
      refine above (name :: before) held ?_ ?_ ((step before).trans found)
      · exact List.cons_prefix_cons.mpr ⟨rfl, shorter⟩
      · intro same
        exact proper (List.cons.inj same).2
  · intro inside
    constructor
    · rw [step, Option.bind_eq_none_iff]
      intro update field
      exact (inside update field).2.1
    · intro before held shorter proper found
      cases before with
      | nil =>
        cases found
        rfl
      | cons first before =>
        obtain ⟨rfl, rest⟩ := List.cons_prefix_cons.mp shorter
        obtain ⟨update, field, below⟩ := Option.bind_eq_some_iff.mp ((step before).symm.trans found)
        refine (inside update field).2.2 before held rest ?_ below
        rintro rfl
        exact proper rfl

theorem leavesAlone_of_absent {fields : Fields Json} {name : String}
    (absent : fields.get? name = none) (names : List String) :
    LeavesAlone (.object fields) (name :: names) := by
  refine leavesAlone_cons_iff.mpr ?_
  intro update field
  cases absent.symm.trans field

theorem LeavesAlone.inside {fields inner : Fields Json} {name : String} {names : List String}
    (alone : LeavesAlone (.object inner) names) (field : fields.get? name = some (.object inner)) :
    LeavesAlone (.object fields) (name :: names) := by
  refine leavesAlone_cons_iff.mpr ?_
  intro update again
  cases field.symm.trans again
  exact ⟨rfl, alone⟩

theorem lookup_mergeFields_of_leavesAlone {value changed : Yaml.Value} {fields : Fields Json}
    {names : List String} (named : Json.WellNamed fields)
    (merged : mergeFields value fields = (changed, none))
    (alone : LeavesAlone (.object fields) names) : lookup names changed = lookup names value := by
  induction names generalizing value changed fields with
  | nil => cases alone.1
  | cons name names ih =>
    rw [lookup_cons, lookup_cons name names value]
    cases field : fields.get? name with
    | none =>
      rw [lookup_mergeFields_of_not_mem merged (Fields.not_mem_of_get? field)]
    | some update =>
      obtain ⟨kind, below⟩ := leavesAlone_cons_iff.mp alone update field
      obtain ⟨inner, rfl⟩ := Json.exists_of_isObject kind
      obtain ⟨settled, laid, found⟩ := lookup_mergeFields named merged field
      rw [found, Option.bind_some, ih (named.inner field) laid below]
      cases lookup [name] value with
      | some old => rfl
      | none =>
        -- The section that was missing is made, but there is nothing in it to be found.
        cases names with
        | nil => cases below.1
        | cons => rfl

end Settings

end Turnstile

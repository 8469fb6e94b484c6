import Turnstile.Proofs.Merging
import Turnstile.Proofs.Setup

/-! Updates of settings. What an update holds is read back under dotted keys, and whatever it leaves
alone reads as before. An update that fails has gone through all that it holds before the section
that finds no place, and has changed nothing else. -/
namespace Turnstile.Settings

/-- An update that can be asked for. No mapping has a name twice. -/
structure Update where
  fields : Fields Json
  named : Json.WellNamed fields

def Update.json (u : Update) : Json :=
  .object u.fields

/-- Names to follow one after another, none of which has a dot in it. -/
structure Route where
  names : List String
  nonempty : names ≠ []
  undotted : ∀ name ∈ names, '.' ∉ name.toList

/-- The key that a route is written as. -/
def Route.key (r : Route) : String :=
  ".".intercalate r.names

theorem names_intercalate {parts : List String} (nonempty : parts ≠ [])
    (undotted : ∀ part ∈ parts, '.' ∉ part.toList) : names (".".intercalate parts) = parts := by
  induction parts with
  | nil => contradiction
  | cons part parts ih =>
    obtain ⟨first, others⟩ := List.forall_mem_cons.mp undotted
    cases parts with
    | nil => simp [names, Text.split_of_not_mem first]
    | cons next parts =>
      have chars : (".".intercalate (part :: next :: parts)).toList =
          part.toList ++ '.' :: (".".intercalate (next :: parts)).toList := by
        simp [String.intercalate_cons_cons]
      have rest := ih (by simp) others
      rw [names] at rest ⊢
      rw [chars, Text.split_append first, List.map_cons, rest, String.ofList_toList]

theorem get?_key (s : Settings) (r : Route) : s.get? r.key = lookup r.names s.value := by
  rw [get?, Route.key, names_intercalate r.nonempty r.undotted]

theorem update_eq_iff {s next : Settings} {u : Update} {e : Option MergeError} :
    s.update u.json = (next, e) ↔
      mergeFields s.value u.fields = (next.value, e) ∧ next.origin = s.origin := by
  constructor
  · intro updated
    cases updated
    exact ⟨rfl, rfl⟩
  · rintro ⟨merged, same⟩
    change (Settings.mk s.origin (mergeFields s.value u.fields).1,
      (mergeFields s.value u.fields).2) = (next, e)
    rw [merged, ← same]

theorem get?_update {s next : Settings} {u : Update} (updated : s.update u.json = (next, none))
    {r : Route} {held : Json} (found : u.json.at? r.names = some held)
    (plain : held.isObject = false) : next.get? r.key = some (.ofJson held) := by
  rw [get?_key]
  exact lookup_mergeFields_at u.named (update_eq_iff.mp updated).1 found plain

theorem get?_update_of_leavesAlone {s next : Settings} {u : Update}
    (updated : s.update u.json = (next, none)) {r : Route} (alone : LeavesAlone u.json r.names) :
    next.get? r.key = s.get? r.key := by
  rw [get?_key, get?_key]
  exact lookup_mergeFields_of_leavesAlone u.named (update_eq_iff.mp updated).1 alone

/-- Updates that all succeed, one after another. -/
inductive Updates : Settings → List Update → Settings → Prop where
  | nil (s : Settings) : Updates s [] s
  | cons {s next last : Settings} {u : Update} {us : List Update} :
      s.update u.json = (next, none) → Updates next us last → Updates s (u :: us) last

theorem updates_append_cons {first last : Settings} {before after : List Update} {u : Update}
    (run : Updates first (before ++ u :: after) last) :
    ∃ s next, Updates first before s ∧ s.update u.json = (next, none) ∧
      Updates next after last := by
  induction before generalizing first with
  | nil =>
    cases run with
    | cons updated rest => exact ⟨first, _, .nil first, updated, rest⟩
  | cons v before ih =>
    cases run with
    | cons updated rest =>
      obtain ⟨s, next, reached, here, later⟩ := ih rest
      exact ⟨s, next, .cons updated reached, here, later⟩

/-- Right after any of the updates that settings undergo, each of its values that is no object is
read under the key of its route, with nothing lost; and under the key of every route that it leaves
alone is read what was read before, or nothing if nothing was. -/
theorem updates_read_back {first last : Settings} {before after : List Update} {u : Update}
    (run : Updates first (before ++ u :: after) last) :
    ∃ s next, Updates first before s ∧ s.update u.json = (next, none) ∧ Updates next after last ∧
      (∀ (r : Route) (held : Json), u.json.at? r.names = some held → held.isObject = false →
        next.get? r.key = some (.ofJson held) ∧
          (next.get? r.key).map (·.toJson) = some held) ∧
      ∀ r : Route, LeavesAlone u.json r.names → next.get? r.key = s.get? r.key := by
  obtain ⟨s, next, reached, updated, later⟩ := updates_append_cons run
  refine ⟨s, next, reached, updated, later, ?_, ?_⟩
  · intro r held found plain
    have read := get?_update updated found plain
    refine ⟨read, ?_⟩
    rw [read, Option.map_some, Yaml.Value.toJson_ofJson]
  · intro r alone
    exact get?_update_of_leavesAlone updated alone

/-- Settings for the log, with a section that is empty and a list that holds an object. -/
def logUpdate : Update where
  fields := [("logging", .object [("level", .text "DEBUG"), ("sinks", .object [])]),
    ("names", .array [.object [("first", .null)]])]
  named := .object (.plain rfl (by decide) (.object .nil (by decide) .nil)) (by decide)
    (.plain rfl (by decide) .nil)

/-- Settings for the search, in a section of a section. -/
def searchUpdate : Update where
  fields := [("search", .object [("limits", .object [("depth", .number 3)])])]
  named := .object (.object (.plain rfl (by decide) .nil) (by decide) .nil) (by decide) .nil

theorem updates_read_back_log :
    ∃ s next last, Updates CommandLine.unchangedSettings [searchUpdate] s ∧
      s.update logUpdate.json = (next, none) ∧ Updates next [searchUpdate] last ∧
      next.get? "logging.level" = some (.text "DEBUG") ∧
      next.get? "logging.format" = s.get? "logging.format" ∧
      next.get? "logging.sinks.file" = s.get? "logging.sinks.file" := by
  have run : ∃ last, Updates CommandLine.unchangedSettings
      ([searchUpdate] ++ logUpdate :: [searchUpdate]) last :=
    ⟨_, .cons (Prod.ext rfl rfl) (.cons (Prod.ext rfl rfl) (.cons (Prod.ext rfl rfl) (.nil _)))⟩
  obtain ⟨last, run⟩ := run
  obtain ⟨s, next, before, here, after, reads, alone⟩ := updates_read_back run
  refine ⟨s, next, last, before, here, after, ?_, ?_, ?_⟩
  · exact (reads ⟨["logging", "level"], by decide, by decide⟩ _ rfl rfl).1
  · exact alone ⟨["logging", "format"], by decide, by decide⟩
      ((leavesAlone_of_absent rfl []).inside rfl)
  · exact alone ⟨["logging", "sinks", "file"], by decide, by decide⟩
      (((leavesAlone_of_absent rfl []).inside rfl).inside rfl)

/-- Fields inside a section, if there are any. -/
def enclose (name : String) : Fields Json → Fields Json
  | [] => []
  | field :: rest => [(name, .object (field :: rest))]

/-- Where an update stops, and what of it comes before: it stops at the first field of a section,
which is given by its names, and what comes before are the earlier fields of all sections around
it. -/
inductive StopsAt : Fields Json → List String → Fields Json → Prop where
  | here (field : String × Json) (rest : Fields Json) : StopsAt (field :: rest) [] []
  | later {field : String × Json} {rest done : Fields Json} {name : String} {names : List String} :
      StopsAt rest (name :: names) done → StopsAt (field :: rest) (name :: names) (field :: done)
  | inside {name : String} {inner rest done : Fields Json} {names : List String} :
      StopsAt inner names done →
        StopsAt ((name, .object inner) :: rest) (name :: names) (enclose name done)

namespace StopsAt

theorem mem_names {fields done : Fields Json} {name : String} {names : List String}
    (stops : StopsAt fields (name :: names) done) : name ∈ fields.names := by
  generalize same : name :: names = route at stops
  induction stops with
  | here => cases same
  | later _ ih => exact List.mem_cons_of_mem _ (ih same)
  | inside =>
    cases same
    exact List.mem_cons_self

theorem names_subset {fields done : Fields Json} {names : List String}
    (stops : StopsAt fields names done) : done.names ⊆ fields.names := by
  induction stops with
  | here => exact List.nil_subset _
  | later _ ih => exact List.cons_subset_cons _ ih
  | @inside name inner rest done _ _ _ =>
    cases done with
    | nil => exact List.nil_subset _
    | cons => exact List.cons_subset_cons _ (List.nil_subset _)

theorem wellNamed {fields done : Fields Json} {names : List String}
    (stops : StopsAt fields names done) (named : Json.WellNamed fields) :
    Json.WellNamed done := by
  induction stops with
  | here => exact .nil
  | later stops ih =>
    cases named with
    | cons below apart rest =>
      exact .cons below (fun member => apart (stops.names_subset member)) (ih rest)
  | @inside _ _ _ done _ _ ih =>
    cases named with
    | cons below =>
      cases done with
      | nil => exact .nil
      | cons field rest => exact .object (ih (below _ rfl)) List.not_mem_nil .nil

end StopsAt

/-- What is wrong with a section: it stands where the value has something that is no mapping. -/
def Blocked (names : List String) (value : Yaml.Value) : Prop :=
  ∃ held, lookup names value = some held ∧ held.isMap = false

theorem not_blocked_empty (names : List String) : ¬Blocked names (.map []) := by
  rintro ⟨held, found, solid⟩
  cases names with
  | nil =>
    cases found
    cases solid
  | cons => cases found

/-- How fields fail to be laid over a value: they stop at a section that is blocked, with what comes
before it laid over the value. -/
structure Fails (fields : Fields Json) (value changed : Yaml.Value) (names : List String)
    (done : Fields Json) : Prop where
  stops : StopsAt fields names done
  blocked : Blocked names value
  merged : mergeFields value done = (changed, none)

theorem Fails.later {rest done : Fields Json} {entries : Yaml.Entries} {held changed : Yaml.Value}
    {name : String} {update : Json} {names : List String}
    (fails : Fails rest (put entries name held) changed names done)
    (laid : layOver (lookup [name] (.map entries)) update = (held, none))
    (apart : name ∉ rest.names) :
    Fails ((name, update) :: rest) (.map entries) changed names ((name, update) :: done) := by
  obtain ⟨stops, ⟨blocking, found, solid⟩, merged⟩ := fails
  cases names with
  | nil =>
    cases found
    cases solid
  | cons next names =>
    -- The blocked section has another name, so it was blocked before this field was laid over.
    have other : next ≠ name := by
      rintro rfl
      exact apart stops.mem_names
    rw [lookup_cons, lookup_put_of_ne entries held other, ← lookup_cons] at found
    refine ⟨.later stops, ⟨blocking, found, solid⟩, ?_⟩
    rw [mergeFields_map_cons laid, merged]

theorem Fails.inside {inner done : Fields Json} {entries : Yaml.Entries} {held : Yaml.Value}
    {name : String} {names : List String}
    (fails : Fails inner ((lookup [name] (.map entries)).getD (.map [])) held names done)
    (rest : Fields Json) :
    Fails ((name, .object inner) :: rest) (.map entries) (put entries name held) (name :: names)
      (enclose name done) := by
  obtain ⟨stops, blocked, merged⟩ := fails
  cases found : lookup [name] (.map entries) with
  | none =>
    -- A section that is missing is made empty, and there nothing is blocked.
    rw [found] at blocked
    exact (not_blocked_empty names blocked).elim
  | some old =>
    rw [found, Option.getD_some] at blocked merged
    refine ⟨.inside stops, by rwa [Blocked, lookup_cons, found], ?_⟩
    cases done with
    | nil =>
      -- Nothing has been laid over the section, so to put it back changes nothing.
      cases merged
      rw [put_of_lookup found]
      rfl
    | cons field done =>
      have laid : layOver (lookup [name] (.map entries)) (.object (field :: done)) =
          (held, none) := by
        rw [found]
        exact merged
      exact mergeFields_map_cons laid []

theorem exists_fails {value changed : Yaml.Value} {fields : Fields Json} {e : MergeError}
    (named : Json.WellNamed fields) (failed : mergeFields value fields = (changed, some e)) :
    ∃ names done, Fails fields value changed names done := by
  -- The induction goes through the fields in order, and into the objects among them.
  induction named generalizing value changed e with
  | nil => cases failed
  | @cons name update rest _ apart _ inner others =>
    rcases mergeFields_cons_cases value name update rest with
      ⟨solid, _, stopped⟩ | ⟨entries, held, rfl, ⟨laid, same⟩ | ⟨_, laid, same⟩⟩
    · cases failed.symm.trans stopped
      exact ⟨[], [], .here _ _, ⟨value, rfl, solid⟩, rfl⟩
    · obtain ⟨names, done, fails⟩ := others (same.symm.trans failed)
      exact ⟨names, _, fails.later laid apart⟩
    · cases failed.symm.trans same
      cases kind : update.isObject with
      | false =>
        rw [layOver_plain _ kind] at laid
        cases laid
      | true =>
        obtain ⟨fields, rfl⟩ := Json.exists_of_isObject kind
        obtain ⟨names, done, fails⟩ := inner fields rfl laid
        exact ⟨_, _, fails.inside rest⟩

/-- An update that fails does so at a section that stands where the settings have no mapping. The
settings are left as by an update that holds just what comes before that section and succeeds; so
what that leaves alone reads as before. -/
theorem failed_update_stops {s failed : Settings} {u : Update} {e : MergeError}
    (failure : s.update u.json = (failed, some e)) :
    ∃ (names : List String) (done : Update), StopsAt u.fields names done.fields ∧
      (∃ held, lookup names s.value = some held ∧ held.isMap = false) ∧
      s.update done.json = (failed, none) ∧
      ∀ r : Route, LeavesAlone done.json r.names → failed.get? r.key = s.get? r.key := by
  obtain ⟨merging, origin⟩ := update_eq_iff.mp failure
  obtain ⟨names, fields, stops, blocked, merged⟩ := exists_fails u.named merging
  let done : Update := ⟨fields, stops.wellNamed u.named⟩
  have updated : s.update done.json = (failed, none) := update_eq_iff.mpr ⟨merged, origin⟩
  refine ⟨names, done, stops, blocked, updated, ?_⟩
  intro r alone
  exact get?_update_of_leavesAlone updated alone

/-- A note, and then a section where the settings have a text. -/
def noteUpdate : Update where
  fields := [("note", .number 1), ("search", .object [("strategy", .object [("name", .null)])])]
  named := .plain rfl (by decide) (.object (.object (.plain rfl (by decide) .nil) (by decide) .nil)
    (by decide) .nil)

theorem failed_update_stops_at_strategy :
    ∃ failed e, CommandLine.unchangedSettings.update noteUpdate.json = (failed, some e) ∧
      ∃ (names : List String) (done : Update), StopsAt noteUpdate.fields names done.fields ∧
        (∃ held, lookup names CommandLine.unchangedSettings.value = some held ∧
          held.isMap = false) ∧
        CommandLine.unchangedSettings.update done.json = (failed, none) := by
  have failure : CommandLine.unchangedSettings.update noteUpdate.json =
      ((CommandLine.unchangedSettings.update noteUpdate.json).1, some .noPlaceForValue) := rfl
  obtain ⟨names, done, stops, blocked, updated, _⟩ := failed_update_stops failure
  exact ⟨_, _, failure, names, done, stops, blocked, updated⟩

/-- An update that fails can leave something to be read that was not there before. -/
theorem failed_update_leaves_note :
    (∀ reader, InForce reader ⟨[], []⟩ none CommandLine.unchangedSettings) ∧
      ∃ failed e, CommandLine.unchangedSettings.update noteUpdate.json = (failed, some e) ∧
        CommandLine.unchangedSettings.get? "note" = none ∧
        failed.get? "note" = some (.ofJson (.number 1)) :=
  ⟨CommandLine.inForce_unchangedSettings, _, _, rfl, rfl, rfl⟩

end Turnstile.Settings

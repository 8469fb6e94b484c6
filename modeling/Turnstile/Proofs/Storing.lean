import Turnstile.Host

/-! Files of a workspace. What is saved under a name is what is loaded under the same name
afterwards, because saving a file takes away nothing that a path may pass. The one exception is the
file that is always empty. Runs that load and save are followed step by step. -/
namespace Turnstile.Workspace

variable {w : Workspace} {parts : List String} {content : ByteArray}

theorem content?_of_ne_nullDevice (w : Workspace) (real : parts ≠ nullDevice) :
    w.content? parts = (w.files.find? (·.1 = parts)).map (·.2) := by
  simp only [content?, if_neg real]

theorem content?_put_self (w : Workspace) (content : ByteArray) (real : parts ≠ nullDevice) :
    (w.put parts content).content? parts = some content := by
  rw [content?_of_ne_nullDevice _ real, put, if_neg real]
  cases known : w.content? parts with
  | some old =>
    rw [content?_of_ne_nullDevice w real] at known
    obtain ⟨⟨file, _⟩, found, _⟩ := Option.map_eq_some_iff.mp known
    have same : file = parts := by simpa using List.find?_some found
    rw [if_pos Option.isSome_some, List.find?_map]
    -- Only contents change, so the file is found where it was found before.
    change Option.map _ (Option.map _ (w.files.find? (·.1 = parts))) = _
    rw [found]
    simp [same]
  | none =>
    rw [content?_of_ne_nullDevice w real] at known
    simp [List.find?_append, Option.map_eq_none_iff.mp known]

theorem content?_put_of_ne {other : List String} (apart : other ≠ parts) :
    (w.put parts content).content? other = w.content? other := by
  by_cases null : other = nullDevice
  · simp [content?, null]
  · rw [content?_of_ne_nullDevice _ null, content?_of_ne_nullDevice _ null, put]
    split
    · rfl
    · split
      · simp only [List.find?_map, Option.map_map, Function.comp_def]
        cases found : w.files.find? (·.1 = other) with
        | none => rfl
        | some file =>
          have same : file.1 = other := by simpa using List.find?_some found
          simp [same, apart]
      · simp [List.find?_append, Ne.symm apart]

/-- A directory is still one after a file was saved. -/
theorem isDirectory_put {other : List String} (found : w.isDirectory other = true) :
    (w.put parts content).isDirectory other = true := by
  unfold put
  split
  · exact found
  · split
    · simpa [isDirectory, Function.comp_def] using found
    · simp only [isDirectory, List.any_append, Bool.or_eq_true] at found ⊢
      exact found.imp_right .inl

theorem isDirectory_dropLast (inside : ¬parts.all (· = "..") = true)
    (found : w.isDirectory parts = true) : w.isDirectory parts.dropLast = true := by
  simp only [isDirectory, Bool.or_eq_true, List.any_eq_true, Bool.and_eq_true, decide_eq_true_eq,
    List.isPrefixOf_iff_prefix] at found ⊢
  rcases found with (outside | outer) | ⟨file, member, holds, other⟩
  · exact (inside outside).elim
  · have roots : ∀ outer ∈ outerDirectories, outer.dropLast = [] ∨ outer.dropLast = ["/"] := by
      decide
    rcases roots parts (by simpa using outer) with root | root <;> simp [root, outerDirectories]
  · refine .inr ⟨file, member, parts.dropLast_prefix.trans holds, fun same => ?_⟩
    -- The file lies below the whole path, so it cannot be what is left without the last part.
    have longer := holds.length_le
    have shorter : parts.dropLast.length = parts.length - 1 := List.length_dropLast
    have filled : parts ≠ [] := by
      rintro rfl
      exact inside rfl
    have positive := List.length_pos_iff.mpr filled
    rw [← same] at longer
    omega

theorem isDirectory_parent {reached : List String} (found : w.isDirectory reached = true) :
    w.isDirectory (parent reached) = true := by
  unfold parent
  split
  · rename_i outside
    simp [isDirectory, outside]
  · rename_i inside
    split
    · exact found
    · exact isDirectory_dropLast inside found

theorem isDirectory_origin (w : Workspace) (path : String) : w.isDirectory (origin path) = true := by
  unfold origin
  split <;> simp [isDirectory, outerDirectories]

/-- The name under which a file is found or can be made. -/
def Target.parts? : Target → Option (List String)
  | file parts _ | vacant parts => some parts
  | directory => none

/-- No directory has the name of a file. -/
theorem follow_parts {reached rest : List String} {target : Target}
    (followed : w.follow reached rest = .ok target) (named : target.parts? = some parts) :
    (w.content? parts).isSome = true ∨ w.isDirectory parts = false := by
  fun_induction follow w reached rest with
  | case1 reached content found =>
    cases followed
    cases named
    exact .inl (by simp [found])
  | case2 => cases followed; cases named
  | case3 | case6 | case9 => cases followed
  | case4 reached rest passable ih => exact ih followed
  | case5 reached rest passable other ih => exact ih followed
  | case7 reached part rest passable here up short next found ih => exact ih followed
  | case8 reached part rest passable here up short next absent last =>
    obtain rfl : next = parts := by
      cases followed
      exact Option.some.inj named
    exact .inr (by simpa using absent : _ ∧ _).2

theorem content?_put_of_passable {reached : List String} (content : ByteArray)
    (apart : (w.content? parts).isSome = true ∨ w.isDirectory parts = false)
    (passable : ¬(w.content? reached).isSome = true)
    (there : (w.content? reached).isSome = true ∨ w.isDirectory reached = true) :
    ¬((w.put parts content).content? reached).isSome = true := by
  have other : reached ≠ parts := by
    rintro rfl
    rcases apart with stored | vacant
    · exact passable stored
    · simp [vacant, passable] at there
  rwa [content?_put_of_ne other]

theorem present_put {next : List String} (content : ByteArray) (real : parts ≠ nullDevice)
    (found : ((w.content? next).isSome || w.isDirectory next) = true) :
    (((w.put parts content).content? next).isSome ||
      (w.put parts content).isDirectory next) = true := by
  rw [Bool.or_eq_true] at found ⊢
  by_cases same : next = parts
  · subst same
    exact .inl (by simp [content?_put_self w content real])
  · rw [content?_put_of_ne same]
    exact found.imp_right isDirectory_put

/-- After a file was saved, the path that led to its place leads to the file. -/
theorem follow_put {reached rest : List String} {target : Target} (content : ByteArray)
    (followed : w.follow reached rest = .ok target) (named : target.parts? = some parts)
    (real : parts ≠ nullDevice)
    (there : (w.content? reached).isSome = true ∨ w.isDirectory reached = true) :
    (w.put parts content).follow reached rest = .ok (.file parts content) := by
  have stored := content?_put_self w content real
  have apart := follow_parts followed named
  fun_induction follow w reached rest with
  | case1 reached old found =>
    cases followed
    cases named
    simp [follow, stored]
  | case2 => cases followed; cases named
  | case3 | case6 | case9 => cases followed
  | case4 reached rest passable ih =>
    rw [follow, if_neg (content?_put_of_passable content apart passable there), if_pos rfl]
    exact ih followed there
  | case5 reached rest passable other ih =>
    rw [follow, if_neg (content?_put_of_passable content apart passable there), if_neg other,
      if_pos rfl]
    exact ih followed (.inr (isDirectory_parent (there.resolve_left passable)))
  | case7 reached part rest passable here up short next found ih =>
    have passable' := content?_put_of_passable content apart passable there
    simp only [follow, if_neg passable', if_neg here, if_neg up, if_neg short]
    rw [if_pos (present_put content real found)]
    exact ih followed (by simpa using found)
  | case8 reached part rest passable here up short next absent last =>
    obtain rfl : next = parts := by
      cases followed
      exact Option.some.inj named
    have passable' := content?_put_of_passable content apart passable there
    obtain rfl := List.isEmpty_iff.mp last
    simp only [follow, if_neg passable', if_neg here, if_neg up, if_neg short]
    simp [next, stored]

theorem destination_eq_ok {path : String} (found : w.destination path = .ok parts) :
    checkName path = .ok () ∧ path.endsWith "/" = false ∧
      ∃ target, w.follow (origin path) (steps path) = .ok target ∧ target.parts? = some parts := by
  unfold destination at found
  cases checked : checkName path with
  | error e =>
    rw [checked] at found
    cases found
  | ok _ =>
    rw [checked] at found
    cases slash : path.endsWith "/" with
    | true =>
      simp only [slash] at found
      cases around : w.follow (origin path) (steps path).dropLast with
      | error e =>
        rw [around] at found
        cases found
      | ok target =>
        rw [around] at found
        cases target <;> cases found
    | false =>
      simp only [slash] at found
      cases followed : w.follow (origin path) (steps path) with
      | error e =>
        rw [followed] at found
        cases found
      | ok target =>
        rw [followed] at found
        refine ⟨rfl, rfl, target, rfl, ?_⟩
        cases target <;> cases found <;> rfl

/-- A file is found where it was saved. -/
theorem target_put {path : String} (content : ByteArray) (found : w.destination path = .ok parts)
    (real : parts ≠ nullDevice) :
    (w.put parts content).target path = .ok (.file parts content) := by
  obtain ⟨checked, slash, target, followed, named⟩ := destination_eq_ok found
  have arrived := follow_put content followed named real (.inr (isDirectory_origin w path))
  rw [Workspace.target, checked, slash, arrived]
  rfl

/-- What is loaded is what was saved. -/
theorem load_save {w' : Workspace} {path : String} (saved : w.save path content = .ok w')
    (real : w.destination path ≠ .ok nullDevice) : w'.load path = .ok content := by
  unfold save at saved
  cases found : w.destination path with
  | error e =>
    rw [found] at saved
    cases saved
  | ok parts =>
    rw [found] at saved real
    obtain rfl : w.put parts content = w' := Except.ok.inj saved
    rw [load, target_put content found (by simpa using real)]
    rfl

theorem fromUTF8?_toUTF8 (text : String) : String.fromUTF8? text.toUTF8 = some text :=
  dif_pos text.isValidUTF8

theorem run_bind {α β : Type} (action : StateM Workspace α) (next : α → StateM Workspace β)
    (w : Workspace) :
    (action >>= next).run w = (next (action.run w).1).run (action.run w).2 := rfl

theorem run_get (w : Workspace) : (get : StateM Workspace Workspace).run w = (w, w) := rfl

theorem run_present (w : Workspace) (path : String) :
    (Host.present path : StateM Workspace _).run w = (w.present path, w) := rfl

theorem run_load (w : Workspace) (path : String) :
    (Host.load path : StateM Workspace _).run w = (w.load path, w) := rfl

theorem run_loadText {path text : String} (stored : w.load path = .ok text.toUTF8) :
    (Host.loadText path : StateM Workspace _).run w = (.ok text, w) := by
  unfold Host.loadText
  simp only [run_bind, run_load, stored, fromUTF8?_toUTF8]
  rfl

theorem run_saveText {w' : Workspace} {path text : String}
    (saved : w.save path text.toUTF8 = .ok w') :
    (Host.saveText path text : StateM Workspace _).run w = (.ok (), w') := by
  unfold Host.saveText Host.save instHostStateM
  simp only [run_bind, run_get, saved]
  rfl

theorem run_saveText_of_error {path text : String} {e : FileError}
    (failed : w.save path text.toUTF8 = .error e) :
    (Host.saveText path text : StateM Workspace _).run w = (.error e, w) := by
  unfold Host.saveText Host.save instHostStateM
  simp only [run_bind, run_get, failed]
  rfl

end Turnstile.Workspace

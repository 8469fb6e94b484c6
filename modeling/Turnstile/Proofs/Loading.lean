import Turnstile.Proofs.Storing
import Turnstile.Settings.Loading

/-! Which settings are in force. They are kept from before, or else they are looked for in one place
after another, and whatever reader is used for files, what is in force follows from what that place
provides and from the variables that are set. -/
namespace Turnstile.Settings

def resolvedText (environment : Fields String) (text : String) : String :=
  match reference? text with
  | none => text
  | some (name, default) => (environment.get? name).getD default

mutual

/-- A value with what its texts refer to in their place. -/
def resolved (environment : Fields String) : Yaml.Value → Yaml.Value
  | .scalar (.json (.text s)) => .text (resolvedText environment s)
  | .scalar s => .scalar s
  | .list items => .list (resolvedItems environment items)
  | .map entries => .map (resolvedEntries environment entries)

def resolvedItems (environment : Fields String) : List Yaml.Value → List Yaml.Value
  | [] => []
  | item :: rest => resolved environment item :: resolvedItems environment rest

def resolvedEntries (environment : Fields String) : List (Yaml.Scalar × Yaml.Value) → Yaml.Entries
  | [] => []
  | (key, value) :: rest => (key, resolved environment value) :: resolvedEntries environment rest

end

variable {w : Workspace}

theorem run_resolveText (w : Workspace) (text : String) :
    (resolveText text : StateM Workspace _).run w = (resolvedText w.environment text, w) := by
  unfold resolveText resolvedText
  cases reference? text with
  | none => rfl
  | some found => rfl

mutual

/-- Resolving a value changes no file and no variable. -/
theorem run_resolve (w : Workspace) :
    ∀ value, (resolve value : StateM Workspace _).run w = (resolved w.environment value, w)
  | .scalar (.json (.text s)) => by
    rw [resolve, resolved, Workspace.run_bind, run_resolveText]
    rfl
  | .scalar (.json .null) | .scalar (.json (.bool _)) | .scalar (.json (.number _))
  | .scalar (.json (.real _)) | .scalar (.json (.broken _)) | .scalar (.foreign _ _) => rfl
  | .list items => by
    rw [resolve, resolved, Workspace.run_bind, run_resolveItems w items]
    rfl
  | .map entries => by
    rw [resolve, resolved, Workspace.run_bind, run_resolveEntries w entries]
    rfl

theorem run_resolveItems (w : Workspace) :
    ∀ items, (resolveItems items : StateM Workspace _).run w =
      (resolvedItems w.environment items, w)
  | [] => rfl
  | item :: rest => by
    rw [resolveItems, resolvedItems, Workspace.run_bind, run_resolve w item, Workspace.run_bind,
      run_resolveItems w rest]
    rfl

theorem run_resolveEntries (w : Workspace) :
    ∀ entries, (resolveEntries entries : StateM Workspace _).run w =
      (resolvedEntries w.environment entries, w)
  | [] => rfl
  | (key, value) :: rest => by
    rw [resolveEntries, resolvedEntries, Workspace.run_bind, run_resolve w value,
      Workspace.run_bind, run_resolveEntries w rest]
    rfl

end

/-- The place where settings are looked for: a variable names it, or else the working directory has
it, or else the library does. -/
def located (w : Workspace) : Origin :=
  match (w.environment.get? pathVariable).filter (· ≠ "") with
  | some path => .given path
  | none =>
    match w.present defaultPath with
    | .ok true => .workingDirectory
    | _ => .builtIn

/-- The file that a place stands for. -/
def file? : Origin → Option String
  | .given path => some path
  | .workingDirectory => some defaultPath
  | .builtIn => none

/-- What a place provides: a file what is read from its text, the library what it was built with. -/
inductive Provides (reader : Yaml.Reader) (w : Workspace) : Origin → Yaml.Value → Prop where
  | file {origin : Origin} {path content : String} {value : Yaml.Value} :
      file? origin = some path → w.load path = .ok content.toUTF8 → reader content = .ok value →
        Provides reader w origin (orEmpty value)
  | builtIn : Provides reader w .builtIn builtIn

/-- The settings in force, given those that are kept from before. -/
inductive InForce (reader : Yaml.Reader) (w : Workspace) : Option Settings → Settings → Prop where
  | kept (settings : Settings) : InForce reader w (some settings) settings
  | found {value : Yaml.Value} : Provides reader w (located w) value →
      InForce reader w none ⟨located w, resolved w.environment value⟩

section

variable {reader : Yaml.Reader} {origin : Origin} {settings : Settings}

theorem inForce_of_located {value : Yaml.Value} (place : located w = origin)
    (provided : Provides reader w origin value) :
    InForce reader w none ⟨origin, resolved w.environment value⟩ := by
  subst place
  exact .found provided

/-- Where there are no files and no variable names one, the library's own settings are in force. -/
theorem inForce_builtIn (reader : Yaml.Reader) {environment : Fields String}
    (unnamed : environment.get? pathVariable = none) :
    InForce reader ⟨[], environment⟩ none ⟨.builtIn, resolved environment builtIn⟩ := by
  have absent : (Workspace.mk [] environment).present defaultPath = .ok false := by
    with_unfolding_all rfl
  have place : located ⟨[], environment⟩ = .builtIn := by
    unfold located
    rw [unnamed, absent]
    rfl
  exact inForce_of_located place .builtIn

end

end Turnstile.Settings

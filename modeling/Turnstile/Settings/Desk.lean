import Turnstile.Settings.Loading

/-! Working with several settings: the common ones, which all who ask for none in particular
share, and the current ones, which are read and changed. They may be the same. -/
namespace Turnstile.Settings

inductive Desk where
  | apart (current common : Option Settings)
  /-- The current settings are the common ones, so a change to them reaches both. -/
  | joined (settings : Settings)

namespace Desk

def empty : Desk :=
  apart none none

def current? : Desk → Option Settings
  | apart current _ => current
  | joined settings => some settings

def common? : Desk → Option Settings
  | apart _ common => common
  | joined settings => some settings

variable {m : Type → Type} [Monad m] [Host m]

/-- Loads settings of their own and makes them current. -/
def load (reader : Yaml.Reader) (d : Desk) (path : Option String) :
    m (Except LoadError Settings × Desk) := do
  match ← Settings.load reader path with
  | .error e => return (.error e, d)
  | .ok settings => return (.ok settings, apart (some settings) d.common?)

/-- Makes the common settings current, loading them if need be, and tells whether they were
current before. -/
def obtain (reader : Yaml.Reader) (d : Desk) (path : Option String) :
    m (Except LoadError (Settings × Bool) × Desk) := do
  match d, path with
  | joined settings, none => return (.ok (settings, true), d)
  | _, _ =>
    match ← Settings.obtain reader d.common? path with
    | .error e => return (.error e, d)
    | .ok settings => return (.ok (settings, false), joined settings)

/-- Forgets the common settings. -/
def reset (d : Desk) : Desk :=
  apart d.current? none

/-- Changes the current settings. -/
def modify (d : Desk) (settings : Settings) : Desk :=
  match d with
  | apart _ common => apart (some settings) common
  | joined _ => joined settings

end Desk

end Turnstile.Settings

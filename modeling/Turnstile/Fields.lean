/-! Named fields in the order in which their names first appeared. -/
namespace Turnstile

abbrev Fields (α : Type) := List (String × α)

namespace Fields

variable {α : Type}

def get? (fields : Fields α) (key : String) : Option α :=
  (fields.find? (·.1 = key)).map (·.2)

theorem get?_cons (k : String) (v : α) (fields : Fields α) (asked : String) :
    get? ((k, v) :: fields) asked = if k = asked then some v else fields.get? asked := by
  unfold get?
  rw [List.find?_cons]
  by_cases hit : k = asked <;> simp [hit]

/-- A new name goes to the end; a known one keeps its place and takes the new value. -/
def set (fields : Fields α) (key : String) (value : α) : Fields α :=
  match fields with
  | [] => [(key, value)]
  | (k, v) :: rest => if k = key then (k, value) :: rest else (k, v) :: set rest key value

/-- Repeated names keep their first place and their last value. -/
def ofPairs (pairs : List (String × α)) : Fields α :=
  pairs.foldl (fun fields (key, value) => set fields key value) []

def names (fields : Fields α) : List String :=
  fields.map (·.1)

end Fields

end Turnstile

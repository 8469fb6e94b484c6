/-! The parts of a text between marks. -/
namespace Turnstile.Text

/-- There is one part more than there are marks, so an empty text has one empty part. -/
def split (mark : Char) : List Char → List (List Char)
  | [] => [[]]
  | c :: rest =>
    if c == mark then [] :: split mark rest
    else
      match split mark rest with
      | [] => [[c]]
      | part :: others => (c :: part) :: others

theorem split_of_not_mem {mark : Char} {part : List Char} (clear : mark ∉ part) :
    split mark part = [part] := by
  induction part with
  | nil => rfl
  | cons c rest ih =>
    simp only [List.mem_cons, not_or] at clear
    simp [split, ih clear.2, Ne.symm clear.1]

theorem split_append {mark : Char} {part rest : List Char} (clear : mark ∉ part) :
    split mark (part ++ mark :: rest) = part :: split mark rest := by
  induction part with
  | nil => simp [split]
  | cons c others ih =>
    simp only [List.mem_cons, not_or] at clear
    simp [split, ih clear.2, Ne.symm clear.1]

end Turnstile.Text

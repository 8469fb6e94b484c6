import Turnstile.Text.Ranges

/-! White space in the widest sense: separators, line and paragraph breaks, and the
control characters that separate records. Joiners of width zero are not blank. -/
namespace Turnstile.Text

def blanks : List (Nat × Nat) :=
  [(0x9, 0xd), (0x1c, 0x20), (0x85, 0x85), (0xa0, 0xa0), (0x1680, 0x1680), (0x2000, 0x200a),
   (0x2028, 0x2029), (0x202f, 0x202f), (0x205f, 0x205f), (0x3000, 0x3000)]

def isBlank (c : Char) : Bool :=
  inRanges blanks c

/-- A text without the blanks at its start and at its end. -/
def trim (chars : List Char) : List Char :=
  ((chars.dropWhile isBlank).reverse.dropWhile isBlank).reverse

end Turnstile.Text

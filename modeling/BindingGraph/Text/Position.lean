/-!
# Positions

A byte of a text lies on a line and in a column of it; both are counted from 1, the
column in characters. Lines end with a line feed here.
-/

namespace BindingGraph.Text

/-- The line and the column of the character that begins `bytes` further on, counted
from a line and a column. -/
def positionFrom (line column : Nat) : (bytes : Nat) → List Char → Nat × Nat
  | _, [] => (line, column)
  | 0, _ => (line, column)
  | bytes, c :: rest =>
    if c = '\n' then positionFrom (line + 1) 1 (bytes - c.utf8Size) rest
    else positionFrom line (column + 1) (bytes - c.utf8Size) rest

/-- The line and the column of the character that begins at a byte of a text. -/
def position (text : String) (byte : Nat) : Nat × Nat := positionFrom 1 1 byte text.toList

/-- Whether a character begins at a byte, or the text ends there. -/
def isBoundary : (bytes : Nat) → List Char → Bool
  | 0, _ => true
  | _, [] => false
  | bytes, c :: rest => c.utf8Size ≤ bytes && isBoundary (bytes - c.utf8Size) rest

example : position "a\nbé!" 5 = (2, 3) := by decide

end BindingGraph.Text

import BindingGraph.Text.CharSet

/-!
# Blanks

Characters with the `White_Space` property of Unicode.
-/

namespace BindingGraph.Text

/-- Boundaries of the runs of blanks above ASCII. -/
def blankRuns : List Nat :=
  [0x85, 0x86, 0xA0, 0xA1, 0x1680, 0x1681, 0x2000, 0x200B, 0x2028, 0x202A, 0x202F, 0x2030, 0x205F,
   0x2060, 0x3000, 0x3001]

def isBlank (c : Char) : Bool :=
  if c.toNat < 128 then c = ' ' || (9 ≤ c.toNat && c.toNat ≤ 13)
  else inRuns blankRuns c.toNat

end BindingGraph.Text

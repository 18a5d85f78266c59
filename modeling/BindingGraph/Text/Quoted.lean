import BindingGraph.Text.Extender
import BindingGraph.Text.Hex
import BindingGraph.Text.Printable

/-!
# Quoted text

Text between quotes in which quotes, backslashes and everything that has no
visible form of its own is escaped, so that the written form ends at the first
quote that stands alone.
-/

namespace BindingGraph.Text

def codePointEscape (c : Char) : List Char :=
  ['\\', 'u', '\x7b'] ++ hex c.toNat ++ ['\x7d']

/-- How a character is written between quotes. -/
def escapeChar (c : Char) : List Char :=
  if c = '\x00' then ['\\', '0']
  else if c = '\t' then ['\\', 't']
  else if c = '\r' then ['\\', 'r']
  else if c = '\n' then ['\\', 'n']
  else if c = '"' then ['\\', '"']
  else if c = '\\' then ['\\', '\\']
  else if isPrintable c && !isExtender c then [c]
  else codePointEscape c

def quoted (text : String) : String :=
  String.ofList ('"' :: text.toList.flatMap escapeChar ++ ['"'])

end BindingGraph.Text

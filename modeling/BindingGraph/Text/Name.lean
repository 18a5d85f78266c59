import BindingGraph.Text.Letter
import BindingGraph.Text.Numeral
import BindingGraph.Text.Quoted

/-!
# Names in keys

A plain name stands for itself; any other text is quoted, so that it cannot be
taken for the signs around it.
-/

namespace BindingGraph.Text

def isNameStart (c : Char) : Bool := isLetter c || c = '_' || c = '$'

def isNamePart (c : Char) : Bool := isNameStart c || isNumeral c

/-- Whether a text needs no quotes to be read as one name. -/
def isPlainName (name : String) : Bool :=
  match name.toList with
  | [] => false
  | c :: rest => isNameStart c && rest.all isNamePart

/-- A name as it stands in a key. -/
def writtenName (name : String) : String := if isPlainName name then name else quoted name

end BindingGraph.Text

/-!
# Lines

Text is cut after each line end, and a carriage return with the line feed after
it is one end. Main statement, `flatten_splitLines`: the lines joined are the text.
-/

namespace BindingGraph.Text

def isLineEnd (c : Char) : Bool :=
  c = '\r' || c = '\n' || c = '\x0b' || c = '\x0c' || c = '\u0085' || c = '\u2028' || c = '\u2029'

/-- The lines of a text with their ends; there is none after the last end. -/
def splitLines : List Char → List (List Char)
  | [] => []
  | '\r' :: '\n' :: rest => ['\r', '\n'] :: splitLines rest
  | c :: rest =>
    if isLineEnd c then [c] :: splitLines rest
    else match splitLines rest with
      | [] => [[c]]
      | line :: lines => (c :: line) :: lines

theorem flatten_splitLines (text : List Char) : (splitLines text).flatten = text := by
  fun_induction splitLines text with
  | case1 => rfl
  | case2 rest ih => simp [ih]
  | case3 c rest _ h ih => simp [ih]
  | case4 c rest _ h hl ih => simpa [hl] using ih
  | case5 c rest _ h line lines hl ih => rw [hl] at ih; simpa using ih

end BindingGraph.Text

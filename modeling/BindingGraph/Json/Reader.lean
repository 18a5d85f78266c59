import BindingGraph.Json.Token

/-!
# Reading JSON

Tokens are put together by a machine with a stack of open arrays and objects, one
step for each token, so that nesting is bounded only by the text.
-/

namespace BindingGraph.Json

/-- An open array or object with what has been read of it, last first. -/
inductive Frame where
  | items (done : List Json)
  /-- The key belongs to the value that is being read. -/
  | members (done : List (Option String × Json)) (key : Option String)

/-- What may come next, inside a stack of open arrays and objects. -/
inductive Reading where
  | value (stack : List Frame)
  /-- An item, or the end of an array without items. -/
  | firstItem (stack : List Frame)
  /-- A key, or the end of an object without members. -/
  | firstKey (stack : List Frame)
  | key (stack : List Frame) (done : List (Option String × Json))
  | colon (stack : List Frame) (done : List (Option String × Json)) (key : Option String)
  /-- A comma or an end, after a value. -/
  | after (stack : List Frame) (value : Json)

namespace Reading

/-- The step where a value begins. -/
def begin (stack : List Frame) : Token → Option Reading
  | .scalar v => some (after stack v)
  | .openBracket => some (firstItem stack)
  | .openBrace => some (firstKey stack)
  | _ => none

/-- The step after a value. -/
def continue? (value' : Json) : List Frame → Token → Option Reading
  | .items done :: stack, .comma => some (value (.items (value' :: done) :: stack))
  | .items done :: stack, .closeBracket => some (after stack (array (value' :: done).reverse))
  | .members done k :: stack, .comma => some (key stack ((k, value') :: done))
  | .members done k :: stack, .closeBrace =>
    some (after stack (object ((k, value') :: done).reverse))
  | _, _ => none

def step : Reading → Token → Option Reading
  | value stack, token => begin stack token
  | firstItem stack, .closeBracket => some (after stack (array []))
  | firstItem stack, token => begin (.items [] :: stack) token
  | firstKey stack, .closeBrace => some (after stack (object []))
  | firstKey stack, .scalar (text k) => some (colon stack [] k)
  | key stack done, .scalar (text k) => some (colon stack done k)
  | colon stack done k, .colon => some (value (.members done k :: stack))
  | after stack v, token => continue? v stack token
  | _, _ => none

/-- The value that was read, when nothing is open any more. -/
def finish : Reading → Option Json
  | after [] v => some v
  | _ => none

end Reading

def ofTokens? (tokens : List Token) : Option Json :=
  (tokens.foldlM Reading.step (.value [])).bind Reading.finish

/-- The value that a text spells, however deep and with numbers of any size. -/
def read? (text : String) : Option Json := (tokens? text).bind ofTokens?

/-- How many arrays and objects may be nested in a value that is read as a whole. -/
def maxDepth : Nat := 127

end BindingGraph.Json

import BindingGraph.Json.Basic
import BindingGraph.Text.Hex

/-!
# Writing JSON

Two layouts: all on one line without blanks, and one item or member to a line with
two blanks for each level. Only what must be escaped is.
-/

namespace BindingGraph.Json

/-- How a character is written in a string. -/
def escapeChar (c : Char) : List Char :=
  if c = '"' then ['\\', '"']
  else if c = '\\' then ['\\', '\\']
  else if c = '\x08' then ['\\', 'b']
  else if c = '\x0c' then ['\\', 'f']
  else if c = '\n' then ['\\', 'n']
  else if c = '\r' then ['\\', 'r']
  else if c = '\t' then ['\\', 't']
  else if c.toNat < 32 then '\\' :: 'u' :: Text.hexPadded 4 c.toNat
  else [c]

def quote (s : String) : String := String.ofList ('"' :: s.toList.flatMap escapeChar ++ ['"'])

/-- A string between quotes; one without a text is written as an empty one. -/
def quoteText (content : Option String) : String := quote (content.getD "")

mutual

/-- The value on one line without blanks. -/
def compact : Json → String
  | null => "null"
  | bool b => if b then "true" else "false"
  | number spelling => spelling
  | text content => quoteText content
  | array items => "[" ++ ",".intercalate (compactItems items) ++ "]"
  | object members => "\x7b" ++ ",".intercalate (compactMembers members) ++ "\x7d"

def compactItems : List Json → List String
  | [] => []
  | v :: rest => compact v :: compactItems rest

def compactMembers : List (Option String × Json) → List String
  | [] => []
  | (k, v) :: rest => (quoteText k ++ ":" ++ compact v) :: compactMembers rest

end

/-- A new line with two blanks for each level. -/
def newLine (level : Nat) : String := String.ofList ('\n' :: List.replicate (2 * level) ' ')

/-- Pieces on lines of their own between two brackets; the brackets alone when there
are no pieces. -/
def bracketed (openSign closeSign : String) (level : Nat) (pieces : List String) : String :=
  if pieces.isEmpty then openSign ++ closeSign
  else
    openSign ++ newLine (level + 1) ++ ("," ++ newLine (level + 1)).intercalate pieces ++
      newLine level ++ closeSign

mutual

/-- The value with one item or member to a line, inside `level` others. -/
def prettyAt (level : Nat) : Json → String
  | array items => bracketed "[" "]" level (prettyItems (level + 1) items)
  | object members => bracketed "\x7b" "\x7d" level (prettyMembers (level + 1) members)
  | v => compact v

def prettyItems (level : Nat) : List Json → List String
  | [] => []
  | v :: rest => prettyAt level v :: prettyItems level rest

def prettyMembers (level : Nat) : List (Option String × Json) → List String
  | [] => []
  | (k, v) :: rest => (quoteText k ++ ": " ++ prettyAt level v) :: prettyMembers level rest

end

/-- The value with one item or member to a line. -/
def pretty (v : Json) : String := prettyAt 0 v

end BindingGraph.Json

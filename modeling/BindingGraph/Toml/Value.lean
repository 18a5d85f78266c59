/-!
# TOML values

What a document holds. Of numbers only the form matters here, so their values are
not kept. A table remembers how it came to be, since that decides whether it may
be defined or extended later on.
-/

namespace BindingGraph.Toml

/-- How a table came to be. -/
inductive Origin where
  /-- Between braces: complete as it stands. -/
  | inline
  /-- By a header of its own. -/
  | header
  /-- By the header of a table inside it. -/
  | implied
  /-- By a dotted key. -/
  | dotted
  deriving DecidableEq

inductive Value where
  | string (s : String)
  | boolean (b : Bool)
  | number
  /-- A date, a time or both, in canonical form. -/
  | moment (canonical : String)
  | array (items : List Value)
  | table (origin : Origin) (entries : List (String × Value))
  /-- The tables of the headers in double brackets, in order. -/
  | tables (elements : List (List (String × Value)))
  deriving Inhabited

/-- The entries of a table, in order of definition. -/
abbrev Entries := List (String × Value)

end BindingGraph.Toml

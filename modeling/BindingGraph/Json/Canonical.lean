import BindingGraph.Dict.Basic
import BindingGraph.Json.Basic

/-!
# Canonical JSON

Values that differ only in the order of members, or in members that a later one of the
same name overrides, have one canonical form.
-/

namespace BindingGraph.Json

mutual

/-- The value with the members of each object in rising order of keys, and of several
with one key the last alone. -/
def canonical : Json → Json
  | array items => array (canonicalItems items)
  | object members => record (Dict.ofList (canonicalMembers members)).entries
  | v => v

def canonicalItems : List Json → List Json
  | [] => []
  | v :: rest => canonical v :: canonicalItems rest

/-- Members in canonical form, those alone whose key has a text. -/
def canonicalMembers : List (Option String × Json) → List (String × Json)
  | [] => []
  | (some k, v) :: rest => (k, canonical v) :: canonicalMembers rest
  | (none, _) :: rest => canonicalMembers rest

end

end BindingGraph.Json

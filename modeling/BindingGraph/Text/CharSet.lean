/-!
# Sets of characters

A set of code points is listed by its boundaries in rising order: the first one
begins a run of members, the second ends it, the third begins the next run.
-/

namespace BindingGraph.Text

/-- Whether a code point lies in the set with the given boundaries. -/
def inRuns : List Nat → Nat → Bool
  | [], _ => false
  | boundary :: rest, n => if n < boundary then false else !inRuns rest n

end BindingGraph.Text

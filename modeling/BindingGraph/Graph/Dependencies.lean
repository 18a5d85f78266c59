import BindingGraph.Graph.Resolve

/-!
# Dependencies

The dependencies of a node are the dynamic nodes whose change may change its
value: for each part that is read as a value, its dependencies, and the part
itself if it is dynamic. Which parts are read as values is settled when the node
is typed; from then on the set is kept, before that it is worked out each time.
-/

namespace BindingGraph

namespace Arena

/-- Adds what a part contributes: its dependencies, and itself if it is dynamic. -/
def contribute (t : Table) (part : Nat) (own : NodeSet) (acc : NodeSet) : NodeSet :=
  if t.isDynamic part then (acc.union own).insert part else acc.union own

/-- Collects the contributions of parts from left to right. `dependencies` gives the
dependencies of a part. -/
def collect (dependencies : Nat → StateM Table NodeSet) : List Nat → NodeSet → StateM Table NodeSet
  | [], acc => return acc
  | part :: rest, acc => do
    let own ← dependencies part
    collect dependencies rest (contribute (← get) part own acc)

/-- Keeps the dependencies of a node once it has been typed. -/
def keepDependencies (id : Nat) (set : NodeSet) (t : Table) : Table :=
  if (t.memo id).outcome.isSome then
    t.update id fun memo => { memo with dependencies := some set }
  else t

/-- The dependencies of a node: those that are kept, or else the ones collected
from its parts. -/
def dependencies (a : Arena) (id : Nat) : StateM Table NodeSet := fun t =>
  match (t.memo id).dependencies with
  | some set => (set, t)
  | none =>
    let part (child : Nat) : StateM Table NodeSet :=
      if child < id then a.dependencies child else return .empty
    let (set, t) := collect part (a.valueChildren t id) .empty t
    (set, keepDependencies id set t)
  termination_by id

/-- The dependencies of a node as they follow from the table, without regard to those
that are kept in it. -/
def currentDependencies (a : Arena) (t : Table) (id : Nat) : NodeSet :=
  (a.valueChildren t id).foldl
    (fun acc child =>
      contribute t child (if child < id then a.currentDependencies t child else .empty) acc)
    .empty
  termination_by id

end Arena

namespace Graph

def dependencies (id : Nat) : StateM Graph NodeSet := onTable fun a => a.dependencies id

end Graph

end BindingGraph

import BindingGraph.Graph.Dependencies

/-!
# What to watch

For each root, the dynamic nodes that it reads, and for each dynamic node the
roots to evaluate again when it changes. Roots without a value stand apart with
their errors and do not affect the others. All lists of nodes are sorted by key.
-/

namespace BindingGraph

structure WatchedRoot where
  id : Nat
  type : HostType
  /-- The dynamic nodes that it reads, sorted by key. -/
  dependencies : List Nat
  /-- The variables among its dependencies. -/
  leaves : List Nat
  deriving DecidableEq

structure FailedRoot where
  id : Nat
  error : TypingError
  deriving DecidableEq

/-- The roots of a unit with what they read, and the way back. -/
structure Watch where
  /-- The roots with a value, in order of registration. -/
  roots : List WatchedRoot
  /-- The roots without a value, in order of registration. -/
  failures : List FailedRoot
  /-- For each node that some root reads, the roots that read it, sorted by key. -/
  readers : List (Nat × List Nat)
  /-- The variables that some root reads, sorted by key. -/
  observers : List Nat
  deriving DecidableEq

namespace Watch

/-- Notes that `root` reads `node`. -/
def addReader (root node : Nat) : List (Nat × List Nat) → List (Nat × List Nat)
  | [] => [(node, [root])]
  | (n, roots) :: rest =>
    if n = node then (n, roots ++ [root]) :: rest else (n, roots) :: addReader root node rest

/-- The readers of all nodes, in order of registration. -/
def readersOf (roots : List WatchedRoot) : List (Nat × List Nat) :=
  roots.foldl (fun readers r => r.dependencies.foldl (fun acc n => addReader r.id n acc) readers) []

/-- The variables that some root reads, in order of handles. -/
def leafSet (roots : List WatchedRoot) : NodeSet :=
  roots.foldl (fun acc r => r.leaves.foldl (fun acc n => acc.insert n) acc) .empty

/-- The roots with a value, and those without, with their nodes sorted by key. -/
def ofRoots (a : Arena) (roots : List WatchedRoot) (failures : List FailedRoot) : Watch where
  roots := roots
  failures := failures
  readers := (readersOf roots).map fun p => (p.1, a.sortByKey p.2)
  observers := a.sortByKey (leafSet roots).toList

def root? (w : Watch) (id : Nat) : Option WatchedRoot := w.roots.find? (·.id = id)

/-- What a root reads; nothing for a root without a value. -/
def dependencies (w : Watch) (id : Nat) : List Nat :=
  ((w.root? id).map WatchedRoot.dependencies).getD []

def leaves (w : Watch) (id : Nat) : List Nat := ((w.root? id).map WatchedRoot.leaves).getD []

/-- The roots to evaluate again when a node changes, sorted by key. -/
def dependents (w : Watch) (node : Nat) : List Nat := (w.readers.lookup node).getD []

end Watch

namespace Arena

/-- What a typed root reads. A root that is a variable reads itself. -/
def watchedRoot (a : Arena) (id : Nat) (type : HostType) (set : NodeSet) : WatchedRoot :=
  let dependencies := a.sortByKey (if a.isIdentifier id then set.toList ++ [id] else set.toList)
  ⟨id, type, dependencies, dependencies.filter a.isIdentifier⟩

/-- Types a root and collects what it reads. -/
def watchRoot (a : Arena) (m : Model) (id : Nat) :
    StateM Table (Except FailedRoot WatchedRoot) := do
  match ← (a.resolveValue m id).run with
  | .error e =>
    modify (·.record (.event (.rootFailed id e)))
    return .error ⟨id, e⟩
  | .ok type =>
    let root := a.watchedRoot id type (← a.dependencies id)
    modify (·.record (.event (.collected id root.dependencies.length root.leaves.length)))
    return .ok root

def watchRoots (a : Arena) (m : Model) :
    List Nat → StateM Table (List WatchedRoot × List FailedRoot)
  | [] => return ([], [])
  | id :: rest => do
    let first ← a.watchRoot m id
    let (roots, failures) ← a.watchRoots m rest
    match first with
    | .ok root => return (root :: roots, failures)
    | .error failure => return (roots, failure :: failures)

/-- Types all roots and says what to watch. -/
def watch (a : Arena) (m : Model) : StateM Table Watch := do
  let (roots, failures) ← a.watchRoots m (a.roots.toList.map Root.id)
  return .ofRoots a roots failures

end Arena

namespace Graph

def watch (m : Model) : StateM Graph Watch := onTable fun a => a.watch m

end Graph

end BindingGraph

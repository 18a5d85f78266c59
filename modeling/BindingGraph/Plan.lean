import BindingGraph.Diagnostic.Basic
import BindingGraph.Graph.Watch

/-!
# The plan of a unit

What a code generator is told: each binding with its type and what it reads, each
variable to observe with the bindings that it invalidates, and each binding that
has no value. All lists are sorted by key.
-/

namespace BindingGraph

structure Binding where
  key : String
  type : HostType
  /-- The keys of the dynamic nodes that it reads, in order. -/
  dependencies : List String
  span : Option Span
  deriving DecidableEq

structure Observer where
  key : String
  name : String
  type : Option HostType
  /-- The keys of the bindings to evaluate again, in order. -/
  bindings : List String
  deriving DecidableEq

/-- A binding without a value. -/
structure FailedBinding where
  key : String
  error : TypingError
  /-- Where the fault lies, or else where the binding was registered. -/
  span : Option Span
  deriving DecidableEq

/-- What a code generator is told about one unit. -/
structure Plan where
  bindings : List Binding
  observers : List Observer
  errors : List FailedBinding
  deriving DecidableEq

def Binding.unmarked (b : Binding) : Binding := { b with span := none }

def FailedBinding.unmarked (b : FailedBinding) : FailedBinding :=
  { b with error := ⟨b.error.fault, none⟩, span := none }

namespace Plan

/-- The plan without any place. -/
def unmarked (p : Plan) : Plan :=
  { p with
    bindings := p.bindings.map Binding.unmarked
    errors := p.errors.map FailedBinding.unmarked }

def hasErrors (p : Plan) : Bool := !p.errors.isEmpty

/-- The plan for what is to be watched. -/
def ofWatch (a : Arena) (t : Table) (w : Watch) : Plan where
  bindings := (w.roots.map fun r =>
    ⟨a.key r.id, r.type, r.dependencies.map a.key, (a.root? r.id).bind Root.span⟩).mergeSort
      fun (x y : Binding) => x.key ≤ y.key
  observers := w.observers.map fun leaf =>
    { key := a.key leaf
      name := ((a.form? leaf).bind Form.identifierName?).getD ""
      type := t.type? leaf
      bindings := (w.dependents leaf).map a.key }
  errors := (w.failures.map fun f =>
    ⟨a.key f.id, f.error, f.error.span.or ((a.root? f.id).bind Root.span)⟩).mergeSort
      fun (x y : FailedBinding) => x.key ≤ y.key

end Plan

namespace Graph

/-- Types all roots and plans the unit. -/
def compile (m : Model) : StateM Graph Plan := onTable fun a => do
  let w ← a.watch m
  return .ofWatch a (← get) w

end Graph

end BindingGraph

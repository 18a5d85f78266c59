import BindingGraph.Graph.Node
import BindingGraph.Imports

/-!
# The arena of a unit

The arena holds what is published: nodes with their keys, the index from keys to
handles, where expressions were first written, and the registered roots. Typing
reads it and never changes it.
-/

namespace BindingGraph

/-- The published nodes of one unit. -/
structure Arena where
  imports : Imports
  nodes : Array Node
  /-- The handle of each key. -/
  index : Dict Nat
  /-- For each node, the span of its first occurrence that has one. -/
  spans : Array (Option Span)
  /-- The roots in order of registration. -/
  roots : Array Root
  deriving Inhabited

namespace Arena

def empty (imports : Imports) : Arena := ⟨imports, #[], .empty, #[], #[]⟩

def size (a : Arena) : Nat := a.nodes.size

def form? (a : Arena) (id : Nat) : Option Form := a.nodes[id]?.map Node.form

/-- The key of a node; empty for a handle that was never given out. -/
def key (a : Arena) (id : Nat) : String := (a.nodes[id]?.map Node.key).getD ""

def find? (a : Arena) (key : String) : Option Nat := a.index.get? key

/-- Where a node was first written, if that is known. -/
def span? (a : Arena) (id : Nat) : Option Span := a.spans[id]?.join

def children (a : Arena) (id : Nat) : List Nat := ((a.form? id).map Form.children).getD []

/-- Whether a node is a bare name, declared or not. -/
def isIdentifier (a : Arena) (id : Nat) : Bool :=
  ((a.form? id).bind Form.identifierName?).isSome

def push (a : Arena) (key : String) (form : Form) : Arena :=
  { a with
    nodes := a.nodes.push ⟨key, form⟩
    index := a.index.insert key a.nodes.size
    spans := a.spans.push none }

/-- Registers a root unless it is one already. -/
def addRoot (a : Arena) (id : Nat) (span : Option Span) : Arena :=
  if a.roots.any (·.id = id) then a else { a with roots := a.roots.push ⟨id, span⟩ }

/-- Records where a node is written unless that is known already. -/
def recordSpan (a : Arena) (id : Nat) (span : Span) : Arena :=
  { a with spans := a.spans.modify id fun known => some (known.getD span) }

def root? (a : Arena) (id : Nat) : Option Root := a.roots.find? (·.id = id)

def sortByKey (a : Arena) (ids : List Nat) : List Nat :=
  ids.mergeSort fun x y => a.key x ≤ a.key y

@[simp] theorem form?_push (a : Arena) (key : String) (form : Form) (id : Nat) :
    (a.push key form).form? id = if id = a.size then some form else a.form? id := by
  unfold form? push size
  rw [Array.getElem?_push]
  split <;> rfl

@[simp] theorem key_push (a : Arena) (key : String) (form : Form) (id : Nat) :
    (a.push key form).key id = if id = a.size then key else a.key id := by
  unfold Arena.key push size
  rw [Array.getElem?_push]
  split <;> rfl

@[simp] theorem find?_push (a : Arena) (key : String) (form : Form) (k : String) :
    (a.push key form).find? k = if k = key then some a.size else a.find? k :=
  Dict.get?_insert _ _ _ _

/-- A span is recorded once, for a node that is there. -/
theorem span?_recordSpan (a : Arena) (id : Nat) (span : Span) (n : Nat) :
    (a.recordSpan id span).span? n =
      if id = n ∧ n < a.spans.size then some ((a.span? n).getD span) else a.span? n := by
  unfold span? recordSpan
  rw [Array.getElem?_modify]
  by_cases h : id = n
  · by_cases hn : n < a.spans.size
    · simp [h, hn]
    · simp [h, hn]
  · simp [h]

/-- The dotted path that a bare undeclared name, or a chain of members of one, spells. -/
def path? (a : Arena) (id : Nat) : Option String :=
  match a.form? id with
  | some (.identifier name none) => some name
  | some (.field target name) =>
    if target < id then (a.path? target).map (· ++ "." ++ name) else none
  | _ => none
  termination_by id

end Arena

end BindingGraph

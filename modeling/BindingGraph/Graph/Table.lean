import BindingGraph.Denotation
import BindingGraph.Graph.NodeSet
import BindingGraph.TypingError

/-!
# What is known about nodes

Beside the arena stands a table with one memo per node and a journal. The journal
lists, in order, the questions put to the model and the events of the engine.
-/

namespace BindingGraph

inductive Query where
  | type (name : String) (answer : Option HostType)
  | field (owner : HostType) (name : String) (answer : Option HostType)
  | method (owner : HostType) (name : String) (args : List HostType) (answer : Option HostType)
  deriving DecidableEq

inductive Event where
  /-- An expression was published already. -/
  | reused (id : Nat)
  /-- An expression was published. -/
  | interned (id : Nat)
  /-- A node was typed. -/
  | resolved (id : Nat) (meaning : Denotation)
  /-- A node has no type. -/
  | failed (id : Nat) (error : TypingError)
  /-- A root does not denote a value. -/
  | rootFailed (id : Nat) (error : TypingError)
  /-- The dependencies of a root are known, with the number of variables among them. -/
  | collected (id : Nat) (dependencies leaves : Nat)
  deriving DecidableEq

inductive Entry where
  | query (q : Query)
  | event (e : Event)
  deriving DecidableEq

/-- What is known about one node. -/
structure Memo where
  /-- Whether the value may change: an estimate until the node is typed. -/
  dynamic : Bool
  /-- The receiver was read as a class. -/
  staticReceiver : Bool
  /-- The result of typing, success or failure. -/
  outcome : Option (Except TypingError Denotation)
  dependencies : Option NodeSet

namespace Memo

def new (dynamic : Bool) : Memo := ⟨dynamic, false, none, none⟩

instance : Inhabited Memo := ⟨new false⟩

end Memo

/-- The memos of all nodes, and the journal. -/
structure Table where
  memos : Array Memo
  journal : Array Entry
  deriving Inhabited

namespace Table

def empty : Table := ⟨#[], #[]⟩

def memo (t : Table) (id : Nat) : Memo := t.memos[id]?.getD default

def isDynamic (t : Table) (id : Nat) : Bool := (t.memo id).dynamic

/-- What a typed node denotes. -/
def meaning? (t : Table) (id : Nat) : Option Denotation :=
  match (t.memo id).outcome with
  | some (.ok meaning) => some meaning
  | some (.error _) | none => none

def type? (t : Table) (id : Nat) : Option HostType := (t.meaning? id).map Denotation.type

def failure? (t : Table) (id : Nat) : Option TypingError :=
  match (t.memo id).outcome with
  | some (.error e) => some e
  | some (.ok _) | none => none

def record (t : Table) (entry : Entry) : Table := { t with journal := t.journal.push entry }

def push (t : Table) (memo : Memo) : Table := { t with memos := t.memos.push memo }

def update (t : Table) (id : Nat) (change : Memo → Memo) : Table :=
  { t with memos := t.memos.modify id change }

@[simp] theorem memo_record (t : Table) (entry : Entry) (id : Nat) :
    (t.record entry).memo id = t.memo id := rfl

theorem memo_push (t : Table) (memo : Memo) (id : Nat) :
    (t.push memo).memo id = if id = t.memos.size then memo else t.memo id := by
  unfold Table.memo push
  rw [Array.getElem?_push]
  split <;> rfl

/-- A change touches one memo, if the node is there. -/
theorem memo_update (t : Table) (id : Nat) (change : Memo → Memo) (n : Nat) :
    (t.update id change).memo n =
      if id = n ∧ n < t.memos.size then change (t.memo n) else t.memo n := by
  unfold Table.memo update
  rw [Array.getElem?_modify]
  by_cases h : id = n
  · by_cases hn : n < t.memos.size
    · simp [h, hn]
    · simp [h, hn]
  · simp [h]

end Table

end BindingGraph

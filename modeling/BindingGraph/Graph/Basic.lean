import BindingGraph.Graph.Arena
import BindingGraph.Graph.Table

/-!
# Expression graphs

A graph shares equal expressions: publishing an expression whose key is known
gives the node that has it. Variables are declared by publishing their name
together with a type, which can be done only once and before the name is used.
-/

namespace BindingGraph

/-- The expressions of one unit and what is known about them. -/
structure Graph where
  arena : Arena
  table : Table
  deriving Inhabited

namespace Graph

def empty (imports : Imports) : Graph := ⟨.empty imports, .empty⟩

def size (g : Graph) : Nat := g.arena.size

/-- Whether the value of an expression may change, before it is typed: names may,
literals may not, and others may when one of their parts may. -/
def estimate (t : Table) : Form → Bool
  | .identifier _ _ => true
  | .literal _ _ => false
  | form => form.children.any t.isDynamic

/-- Publishes an expression, or finds the node that has its key. -/
def intern (form : Form) : StateM Graph Nat := fun g =>
  let key := form.key g.arena.key
  match g.arena.find? key with
  | some id => (id, { g with table := g.table.record (.event (.reused id)) })
  | none =>
    let id := g.size
    let memo := Memo.new (estimate g.table form)
    (id, ⟨g.arena.push key form, (g.table.push memo).record (.event (.interned id))⟩)

/-- A bare name, or the variable of that name. -/
def identifier (name : String) : StateM Graph Nat := intern (.identifier name none)

def literal (kind : LiteralKind) (text : String) : StateM Graph Nat := intern (.literal kind text)

def field (target : Nat) (name : String) : StateM Graph Nat := intern (.field target name)

def call (target : Nat) (method : String) (args : List Nat) : StateM Graph Nat :=
  intern (.call target method args)

def binary (op : BinaryOp) (left right : Nat) : StateM Graph Nat := intern (.binary op left right)

def unary (op : UnaryOp) (operand : Nat) : StateM Graph Nat := intern (.unary op operand)

def choice (condition thenBranch elseBranch : Nat) : StateM Graph Nat :=
  intern (.choice condition thenBranch elseBranch)

/-- Declares a variable. A second declaration with the same type finds the first;
one with another type, or of a name in use, changes nothing and fails. -/
def declare (name typeName : String) : ExceptT DeclarationError (StateM Graph) Nat := fun g =>
  match g.arena.find? (Key.identifier name) with
  | none =>
    let (id, g) := intern (.identifier name (some typeName)) g
    (.ok id, g)
  | some id =>
    match g.arena.form? id with
    | some (.identifier _ (some existing)) =>
      if existing = typeName then (.ok id, g) else (.error (.conflict name existing typeName), g)
    | _ => (.error (.afterUse name), g)

def addRoot (id : Nat) (span : Option Span) : StateM Graph Unit :=
  modify fun g => { g with arena := g.arena.addRoot id span }

def recordSpan (id : Nat) (span : Span) : StateM Graph Unit :=
  modify fun g => { g with arena := g.arena.recordSpan id span }

/-- Runs a step that reads the arena and changes the table only. -/
def onTable {α : Type} (step : Arena → StateM Table α) : StateM Graph α := fun g =>
  let (result, table) := step g.arena g.table
  (result, { g with table })

end Graph

end BindingGraph

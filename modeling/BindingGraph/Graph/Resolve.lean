import BindingGraph.Graph.Basic
import BindingGraph.Model
import BindingGraph.Text.Capital

/-!
# Typing nodes

A node is typed from its parts, and the first result, good or bad, is kept: each
shared expression puts its questions to the model once. A bare undeclared name
has no type of its own; the expression around it may read it as a class or as
the head of a class path:

1. `path.field` is tried as the name of a class;
2. else the target is a receiver, and a bare name there may still name a class;
3. else the name is an undefined variable, or a class where a value is needed.
-/

namespace BindingGraph

/-- A step of typing: it may fail, and it writes to the table either way. -/
abbrev Resolver (α : Type) := ExceptT TypingError (StateM Table) α

namespace Resolver

def change (f : Table → Table) : Resolver Unit := fun t => (.ok (), f t)

/-- Puts a question to the model; the answer goes into the journal. -/
def ask {α : Type} (answer : α) (query : α → Query) : Resolver α := fun t =>
  (.ok answer, t.record (.query (query answer)))

def findType (m : Model) (imports : Imports) (name : String) : Resolver (Option HostType) :=
  ask (m.findType imports name) (.type name)

def fieldType (m : Model) (owner : HostType) (field : String) : Resolver (Option HostType) :=
  ask (m.fieldType owner field) (.field owner field)

def returnType (m : Model) (owner : HostType) (method : String) (args : List HostType) :
    Resolver (Option HostType) :=
  ask (m.returnType owner method args) (.method owner method args)

/-- Asks for a member of an owner: a field, then a getter, then an `is` getter,
which counts only if it returns a truth value. -/
def memberType (m : Model) (owner : HostType) (field : String) : Resolver (Option HostType) := do
  match ← fieldType m owner field with
  | some type => return some type
  | none =>
    match ← returnType m owner ("get" ++ Text.capitalize field) [] with
    | some type => return some type
    | none =>
      let answer ← returnType m owner ("is" ++ Text.capitalize field) []
      return answer.filter HostType.isBoolean

end Resolver

namespace Arena

/-- A fault in a node, with the place where the node was first written. -/
def failure (a : Arena) (id : Nat) (fault : Fault) : TypingError := ⟨fault, a.span? id⟩

/-- The value of a given type, or a fault in a node if there is no type. -/
def valueOr (a : Arena) (id : Nat) (type : Option HostType) (fault : Fault) :
    Resolver Denotation :=
  match type with
  | some type => return .value type
  | none => throw (a.failure id fault)

/-- The type of a part that must be a value. `resolve` types parts. -/
def valueOf (a : Arena) (resolve : Nat → Resolver Denotation) (id : Nat) : Resolver HostType := do
  match ← resolve id with
  | .value type => return type
  | .classRef type => throw (a.failure id (.notAValue ((a.path? id).getD type.name)))

/-- The types of parts that must be values, from left to right. -/
def valuesOf (a : Arena) (resolve : Nat → Resolver Denotation) : List Nat → Resolver (List HostType)
  | [] => return []
  | id :: rest => do
    let type ← a.valueOf resolve id
    let types ← a.valuesOf resolve rest
    return type :: types

/-- Marks a node as one whose receiver is a class. -/
def claimStatic (id : Nat) : Resolver Unit :=
  Resolver.change (·.update id fun memo => { memo with staticReceiver := true })

/-- The type of a receiver that is not the bare name of a class. -/
def typedReceiver (resolve : Nat → Resolver Denotation) (parent target : Nat) :
    Resolver HostType := do
  match ← resolve target with
  | .value type => return type
  | .classRef type =>
    claimStatic parent
    return type

/-- The type of the receiver of a member access. A bare undeclared name is tried
as a class first; `parent` is marked when the receiver is a class. -/
def receiver (a : Arena) (m : Model) (resolve : Nat → Resolver Denotation) (parent target : Nat) :
    Resolver HostType := do
  match (a.form? target).bind Form.undeclaredName? with
  | none => typedReceiver resolve parent target
  | some name =>
    match ← Resolver.findType m a.imports name with
    | some type =>
      claimStatic parent
      return type
    | none => typedReceiver resolve parent target

/-- The class that a member access names as a path. -/
def pathClass (a : Arena) (m : Model) (target : Nat) (name : String) :
    Resolver (Option HostType) :=
  match a.path? target with
  | some path => Resolver.findType m a.imports (path ++ "." ++ name)
  | none => return none

/-- What a node denotes, worked out from its parts. `resolve` types parts. -/
def evaluate (a : Arena) (m : Model) (resolve : Nat → Resolver Denotation) (id : Nat) :
    Form → Resolver Denotation
  | .identifier name (some typeName) => do
    let type ← Resolver.findType m a.imports typeName
    a.valueOr id type (.unknownType name typeName)
  | .identifier name none => do
    match ← Resolver.findType m a.imports name with
    | some _ => throw (a.failure id (.notAValue name))
    | none => throw (a.failure id (.undefinedVariable name))
  | .literal kind _ => return .value kind.type
  | .field target name => do
    match ← a.pathClass m target name with
    | some type => return .classRef type
    | none =>
      let owner ← a.receiver m resolve id target
      let type ← Resolver.memberType m owner name
      a.valueOr id type (.noField owner name)
  | .call target method args => do
    let owner ← a.receiver m resolve id target
    let types ← a.valuesOf resolve args
    let type ← Resolver.returnType m owner method types
    a.valueOr id type (.noMethod owner method types)
  | .binary op left right => do
    let l ← a.valueOf resolve left
    let r ← a.valueOf resolve right
    a.valueOr id (op.resultType l r) (.badOperands op.symbol [l, r])
  | .unary op operand => do
    let t ← a.valueOf resolve operand
    a.valueOr id (op.resultType t) (.badOperands op.symbol [t])
  | .choice condition thenBranch elseBranch => do
    let c ← a.valueOf resolve condition
    if c.isBoolean then
      let t ← a.valueOf resolve thenBranch
      let e ← a.valueOf resolve elseBranch
      a.valueOr id (choiceType t e) (.badOperands "?:" [c, t, e])
    else
      throw (a.failure id (.badOperands "?:" [c]))

/-- The parts that a node reads as values. A class has none, and a receiver that
is a class is none. -/
def valueChildren (a : Arena) (t : Table) (id : Nat) : List Nat :=
  if (t.meaning? id).any Denotation.isClassRef then []
  else match a.form? id with
    | some (.field target _) => if (t.memo id).staticReceiver then [] else [target]
    | some (.call target _ args) => if (t.memo id).staticReceiver then args else target :: args
    | some form => form.children
    | none => []

/-- Whether the value of a typed node may change. -/
def isDynamicNow (a : Arena) (t : Table) (id : Nat) : Bool :=
  a.isIdentifier id || (a.valueChildren t id).any t.isDynamic

/-- Keeps the result of typing a node and notes it in the journal. A node that has
a type also learns whether its value may change. -/
def settle (a : Arena) (id : Nat) (result : Except TypingError Denotation) (t : Table) : Table :=
  let keep : Table → Table := (·.update id fun memo => { memo with outcome := some result })
  match result with
  | .error e => keep (t.record (.event (.failed id e)))
  | .ok meaning =>
    let t := keep (t.record (.event (.resolved id meaning)))
    t.update id fun memo => { memo with dynamic := a.isDynamicNow t id }

/-- What a node denotes: the result that is kept for it, or else the one worked out
from its parts, which is kept from then on. -/
def resolve (a : Arena) (m : Model) (id : Nat) : Resolver Denotation := fun t =>
  match (t.memo id).outcome with
  | some result => (result, t)
  | none =>
    let part (child : Nat) : Resolver Denotation :=
      if child < id then a.resolve m child
      else throw (a.failure child (.undefinedVariable (a.key child)))
    let step := match a.form? id with
      | some form => a.evaluate m part id form
      | none => throw (a.failure id (.undefinedVariable (a.key id)))
    let (result, t) := step t
    (result, a.settle id result t)
  termination_by id

/-- The type of a node that must denote a value. -/
def resolveValue (a : Arena) (m : Model) (id : Nat) : Resolver HostType :=
  a.valueOf (a.resolve m) id

/-- The type of a node, be it a value or a class. -/
def resolveType (a : Arena) (m : Model) (id : Nat) : Resolver HostType := do
  let meaning ← a.resolve m id
  return meaning.type

end Arena

namespace Graph

def resolve (m : Model) (id : Nat) : StateM Graph (Except TypingError Denotation) :=
  onTable fun a => a.resolve m id

def resolveValue (m : Model) (id : Nat) : StateM Graph (Except TypingError HostType) :=
  onTable fun a => a.resolveValue m id

def resolveType (m : Model) (id : Nat) : StateM Graph (Except TypingError HostType) :=
  onTable fun a => a.resolveType m id

end Graph

end BindingGraph

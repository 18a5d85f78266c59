import BindingGraph.Expr.Source
import BindingGraph.Json.Decode

/-!
# Parsed expressions in JSON

An expression is an object whose `kind` says which other members it has; `span`
holds its mark. It is read as a whole: also the members that do not matter must be
within the limits of nesting and numbers.
-/

namespace BindingGraph.SourceExpr

/-- A mark as a member, if there is one. -/
def markMember : Mark → List (String × Json)
  | some (start, stop) => [("span", .array [.nat start, .nat stop])]
  | none => []

mutual

def toJson : SourceExpr → Json
  | identifier mark name =>
    .record ([("kind", .string "identifier"), ("name", .string name)] ++ markMember mark)
  | literal mark kind text =>
    .record ([("kind", .string "literal"), ("literal", .string kind.tag), ("text", .string text)] ++
      markMember mark)
  | field mark target name =>
    .record ([("kind", .string "field_access"), ("target", target.toJson),
      ("field", .string name)] ++ markMember mark)
  | call mark target method args =>
    .record ([("kind", .string "method_call"), ("target", target.toJson),
      ("method", .string method), ("args", .array (toJsonAll args))] ++ markMember mark)
  | binary mark op left right =>
    .record ([("kind", .string "binary"), ("op", .string op.symbol), ("lhs", left.toJson),
      ("rhs", right.toJson)] ++ markMember mark)
  | unary mark op operand =>
    .record ([("kind", .string "unary"), ("op", .string op.symbol), ("operand", operand.toJson)] ++
      markMember mark)
  | choice mark condition thenBranch elseBranch =>
    .record ([("kind", .string "ternary"), ("condition", condition.toJson),
      ("then_branch", thenBranch.toJson), ("else_branch", elseBranch.toJson)] ++ markMember mark)

def toJsonAll : List SourceExpr → List Json
  | [] => []
  | e :: rest => e.toJson :: toJsonAll rest

end

inductive Kind where
  | identifier
  | literal
  | field
  | call
  | binary
  | unary
  | choice
  deriving DecidableEq

namespace Kind

/-- All kinds; a kind may also be given by its place in this list. -/
def all : List Kind := [identifier, literal, field, call, binary, unary, choice]

def name : Kind → String
  | identifier => "identifier"
  | literal => "literal"
  | field => "field_access"
  | call => "method_call"
  | binary => "binary"
  | unary => "unary"
  | choice => "ternary"

/-- The kind that a value names or counts. -/
def ofJson? : Json → Option Kind
  | .text content => content.bind fun word => all.find? (·.name = word)
  | v => v.offset?.bind (all[·]?)

end Kind

/-- Two offsets, in any order. -/
def offsets? (v : Json) : Option (Nat × Nat) :=
  match v with
  | .array [start, stop] => do return (← start.offset?, ← stop.offset?)
  | _ => none

def mark? (members : List (String × Json)) : Option Mark :=
  (Json.single? members "span").bind (Json.optional? (Json.nullable? offsets?) none)

/-- The expression with given members. `part` reads the expressions in it. -/
def ofMembers? (part : Json → Option SourceExpr) (members : List (String × Json)) :
    Option SourceExpr := do
  let mark ← mark? members
  match ← Json.member? Kind.ofJson? members "kind" with
  | .identifier => return .identifier mark (← Json.member? Json.string? members "name")
  | .literal =>
    let kind ← Json.member? (·.wordWithin?.bind LiteralKind.ofTag?) members "literal"
    return .literal mark kind (← Json.member? Json.string? members "text")
  | .field =>
    let target ← Json.member? part members "target"
    return .field mark target (← Json.member? Json.string? members "field")
  | .call =>
    let target ← Json.member? part members "target"
    let method ← Json.member? Json.string? members "method"
    let args ← (Json.single? members "args").bind (Json.optional? (Json.listOf? part) [])
    return .call mark target method args
  | .binary =>
    let op ← Json.member? (·.wordWithin?.bind BinaryOp.ofSymbol?) members "op"
    return .binary mark op (← Json.member? part members "lhs") (← Json.member? part members "rhs")
  | .unary =>
    let op ← Json.member? (·.wordWithin?.bind UnaryOp.ofSymbol?) members "op"
    return .unary mark op (← Json.member? part members "operand")
  | .choice =>
    let condition ← Json.member? part members "condition"
    let thenBranch ← Json.member? part members "then_branch"
    return .choice mark condition thenBranch (← Json.member? part members "else_branch")

/-- The expression in a value that nests at most `depth` objects. -/
def decode? : (depth : Nat) → Json → Option SourceExpr
  | 0, _ => none
  | depth + 1, v => v.members?.bind (ofMembers? (decode? depth))

/-- The expression that a value describes, inside `outer` arrays and objects. -/
def ofJson? (outer : Nat) (v : Json) : Option SourceExpr :=
  let limit := Json.maxDepth - outer
  if v.sound limit then decode? limit v else none

end BindingGraph.SourceExpr

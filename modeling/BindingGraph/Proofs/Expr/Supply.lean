import BindingGraph.Expr.Check

/-!
# Where types come from

Typing a tree makes no type of its own: it starts from literals, from what the model
answers and from what operators give, and hands these on.

* `Scope.Supplies`: a property of all that typing starts from;
* `type_of_check`: whatever a tree denotes has the property.
-/

namespace BindingGraph

/-- What comes out of two steps comes out of the second, applied to what the first gives. -/
theorem exists_of_bind_ok {ε α β : Type} {x : Except ε α} {f : α → Except ε β} {b : β}
    (h : x >>= f = .ok b) : ∃ a, x = .ok a ∧ f a = .ok b := by
  cases x with
  | error e => cases h
  | ok a => exact ⟨a, rfl, h⟩

/-- A property of primitives, of the types of `null` and of strings, and of every answer
of the model. -/
structure Scope.Supplies (s : Scope) (P : HostType → Prop) : Prop where
  primitive : ∀ p, P (.primitive p)
  null : P .null
  string : P .string
  findType : ∀ {name type}, s.findType name = some type → P type
  fieldType : ∀ {owner name type}, s.model.fieldType owner name = some type → P type
  returnType : ∀ {owner name args type}, s.model.returnType owner name args = some type → P type

namespace Scope.Supplies

variable {s : Scope} {P : HostType → Prop}

theorem literal (h : s.Supplies P) (kind : LiteralKind) : P kind.type := by
  cases kind with
  | string => exact h.string
  | null => exact h.null
  | _ => exact h.primitive _

theorem unaryPromotion (h : s.Supplies P) {operand type : HostType}
    (hp : operand.unaryPromotion = some type) : P type := by
  obtain ⟨p, _, rfl⟩ := Option.map_eq_some_iff.1 hp
  exact h.primitive _

theorem binaryPromotion (h : s.Supplies P) {left right type : HostType}
    (hp : left.binaryPromotion right = some type) : P type := by
  obtain ⟨l, _, hr⟩ := Option.bind_eq_some_iff.1 hp
  obtain ⟨r, _, rfl⟩ := Option.map_eq_some_iff.1 hr
  exact h.primitive _

theorem binary (h : s.Supplies P) {op : BinaryOp} {left right type : HostType} (hl : P left)
    (hr : P right) (hop : op.resultType left right = some type) : P type := by
  cases op with
  | add =>
    simp only [BinaryOp.resultType] at hop
    split at hop
    · cases hop
      exact h.string
    · exact h.binaryPromotion hop
  | sub | mul | div | rem => exact h.binaryPromotion hop
  | equal | notEqual =>
    cases hop
    exact h.primitive _
  | less | lessEqual | greater | greaterEqual =>
    obtain ⟨_, _, rfl⟩ := Option.map_eq_some_iff.1 hop
    exact h.primitive _
  | and | or =>
    simp only [BinaryOp.resultType] at hop
    split at hop
    · cases hop
      exact h.primitive _
    · cases hop
  | bitAnd | bitOr | bitXor =>
    simp only [BinaryOp.resultType] at hop
    split at hop
    · cases hop
      exact h.primitive _
    · split at hop
      · exact h.binaryPromotion hop
      · cases hop
  | shiftLeft | shiftRight | shiftRightZero =>
    simp only [BinaryOp.resultType] at hop
    split at hop
    · exact h.unaryPromotion hop
    · cases hop
  | coalesce =>
    cases hop
    split
    · exact hr
    · exact hl

theorem unary (h : s.Supplies P) {op : UnaryOp} {operand type : HostType}
    (hop : op.resultType operand = some type) : P type := by
  cases op with
  | not =>
    simp only [UnaryOp.resultType] at hop
    split at hop
    · cases hop
      exact h.primitive _
    · cases hop
  | negate | plus => exact h.unaryPromotion hop
  | bitNot =>
    simp only [UnaryOp.resultType] at hop
    split at hop
    · exact h.unaryPromotion hop
    · cases hop

theorem choice (h : s.Supplies P) {thenType elseType type : HostType} (ht : P thenType)
    (he : P elseType) (hop : choiceType thenType elseType = some type) : P type := by
  unfold choiceType at hop
  split at hop
  · cases hop
    exact ht
  · split at hop
    · rename_i promoted hp
      cases hop
      exact h.binaryPromotion hp
    · split at hop
      · cases hop
        exact he
      · split at hop
        · cases hop
          exact ht
        · cases hop

theorem member (h : s.Supplies P) {owner type : HostType} {field : String}
    (hm : s.memberType owner field = some type) : P type := by
  unfold Scope.memberType at hm
  rcases Option.or_eq_some_iff.1 hm with hm | ⟨_, hm⟩
  · rcases Option.or_eq_some_iff.1 hm with hm | ⟨_, hm⟩
    · exact h.fieldType hm
    · exact h.returnType hm
  · exact h.returnType (Option.filter_eq_some_iff.1 hm).1

end Scope.Supplies

namespace Expr

variable {s : Scope} {P : HostType → Prop}

theorem type_of_valueType {e : Expr} {type : HostType}
    (part : ∀ d, check s e = .ok d → P d.type) (h : valueType s e (check s e) = .ok type) :
    P type := by
  cases hc : check s e with
  | error fault =>
    rw [hc] at h
    cases h
  | ok d =>
    rw [hc] at h
    cases d with
    | value t =>
      cases h
      exact part _ hc
    | classRef t => cases h

/-- Whatever a tree denotes has every property of all that typing starts from. -/
theorem type_of_check (h : s.Supplies P) {e : Expr} {d : Denotation} (hd : check s e = .ok d) :
    P d.type := by
  induction e generalizing d with
  | identifier name =>
    simp only [check] at hd
    split at hd
    · split at hd
      · rename_i found
        cases hd
        exact h.findType found
      · cases hd
    · split at hd <;> cases hd
  | literal kind text =>
    cases hd
    exact h.literal kind
  | field target name ih =>
    simp only [check] at hd
    split at hd
    · rename_i found
      cases hd
      obtain ⟨path, _, hfound⟩ := Option.bind_eq_some_iff.1 found
      exact h.findType hfound
    · obtain ⟨owner, _, hd⟩ := exists_of_bind_ok hd
      split at hd
      · rename_i found
        cases hd
        exact h.member found
      · cases hd
  | call target method args iht iha =>
    simp only [check] at hd
    obtain ⟨owner, _, hd⟩ := exists_of_bind_ok hd
    obtain ⟨types, _, hd⟩ := exists_of_bind_ok hd
    split at hd
    · rename_i found
      cases hd
      exact h.returnType found
    · cases hd
  | binary op left right ihl ihr =>
    simp only [check] at hd
    obtain ⟨l, hl, hd⟩ := exists_of_bind_ok hd
    obtain ⟨r, hr, hd⟩ := exists_of_bind_ok hd
    split at hd
    · rename_i applied
      cases hd
      exact h.binary (type_of_valueType (fun _ => ihl) hl) (type_of_valueType (fun _ => ihr) hr)
        applied
    · cases hd
  | unary op operand ih =>
    simp only [check] at hd
    obtain ⟨t, _, hd⟩ := exists_of_bind_ok hd
    split at hd
    · rename_i applied
      cases hd
      exact h.unary applied
    · cases hd
  | choice condition thenBranch elseBranch ihc iht ihe =>
    simp only [check] at hd
    obtain ⟨c, _, hd⟩ := exists_of_bind_ok hd
    split at hd
    · cases hd
    · obtain ⟨t, ht, hd⟩ := exists_of_bind_ok hd
      obtain ⟨e, he, hd⟩ := exists_of_bind_ok hd
      split at hd
      · rename_i applied
        cases hd
        exact h.choice (type_of_valueType (fun _ => iht) ht) (type_of_valueType (fun _ => ihe) he)
          applied
      · cases hd

end Expr

end BindingGraph

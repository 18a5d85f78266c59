import BindingGraph.Proofs.Graph.Operands

/-!
# Arithmetic has the widest type

Promotion is the join of the widening order with a floor at `int`. So the type of an
arithmetic expression depends on the set of the types at its leaves only: neither on how the
operators group them, nor on their order or number, nor on what is shared. A string among the
leaves of a sum takes over at every level above it.

* `Primitive.Widest`: the widest of `int` and some primitives;
* `Arena.Composed`: a node that is built from leaves with some operators;
* `arithmetic_typing`: arithmetic on numbers has the widest type, and a sum with a string is a
  string.
-/

namespace BindingGraph

namespace Primitive

/-- The widest of `int` and the primitives of a set. -/
structure Widest (among : Primitive → Prop) (w : Primitive) : Prop where
  int_le : int ≤ w
  le : ∀ {p : Primitive}, among p → p ≤ w
  attained : w = int ∨ among w

variable {among among' : Primitive → Prop} {p q w w' : Primitive}

theorem le_wider_left (p q : Primitive) : p ≤ p.wider q := by
  show p.rank ≤ (p.wider q).rank
  rw [rank_wider]
  exact Nat.le_max_left _ _

theorem le_wider_right (p q : Primitive) : q ≤ p.wider q :=
  wider_comm q p ▸ le_wider_left q p

theorem wider_cases (p q : Primitive) : p.wider q = p ∨ p.wider q = q := by
  unfold wider
  split
  · exact .inr rfl
  · exact .inl rfl

theorem isNumeric_wider_int (p : Primitive) : (p.wider int).isNumeric = true := by
  cases p <;> rfl

theorem wider_int_wider_int (p : Primitive) : (p.wider int).wider int = p.wider int := by
  rw [wider_assoc, wider_self]

namespace Widest

theorem single (p : Primitive) : Widest (· = p) (p.wider int) where
  int_le := le_wider_right p int
  le h := h ▸ le_wider_left p int
  attained := (wider_cases p int).symm

/-- The widest of two sets is the wider of the widest of each. -/
theorem union (h : Widest among w) (h' : Widest among' w') :
    Widest (fun p => among p ∨ among' p) (w.wider w') where
  int_le := Nat.le_trans h.int_le (le_wider_left w w')
  le hp := hp.elim (fun hp => Nat.le_trans (h.le hp) (le_wider_left w w'))
    fun hp => Nat.le_trans (h'.le hp) (le_wider_right w w')
  attained := by
    rcases wider_cases w w' with eq | eq
    · rw [eq]
      exact h.attained.imp_right .inl
    · rw [eq]
      exact h'.attained.imp_right .inr

theorem mono (h : Widest among w) (h' : Widest among' w') (sub : ∀ p, among p → among' p) :
    w ≤ w' := by
  rcases h.attained with rfl | hw
  · exact h'.int_le
  · exact h'.le (sub w hw)

/-- The members decide which is the widest. -/
theorem unique (h : Widest among w) (h' : Widest among' w') (same : ∀ p, among p ↔ among' p) :
    w = w' :=
  rank_injective (Nat.le_antisymm (h.mono h' fun p => (same p).1) (h'.mono h fun p => (same p).2))

theorem congr (h : Widest among w) (same : ∀ p, among p ↔ among' p) : Widest among' w where
  int_le := h.int_le
  le hp := h.le ((same _).2 hp)
  attained := h.attained.imp_right (same w).1

end Widest

end Primitive

/-! ### Operators on numbers and strings -/

def BinaryOp.arithmetic : List BinaryOp := [.add, .sub, .mul, .div, .rem]

/-- The operators that keep or turn the sign of a number. -/
def UnaryOp.signs : List UnaryOp := [.plus, .negate]

section Operators

variable {l r : HostType} {p q : Primitive}

theorem HostType.isString_of_number? (h : l.number? = some p) : l.isString = false := by
  obtain ⟨name, shape⟩ := l
  cases shape with
  | primitive p => rfl
  | reference => cases h
  | null => cases h

theorem HostType.number?_primitive_wider (p : Primitive) :
    (HostType.primitive (p.wider .int)).number? = some (p.wider .int) := by
  rw [HostType.number?_primitive, Primitive.isNumeric_wider_int, if_pos rfl]

theorem BinaryOp.resultType_of_numbers {op : BinaryOp} (hop : op ∈ BinaryOp.arithmetic)
    (hl : l.number? = some p) (hr : r.number? = some q) :
    op.resultType l r = some (.primitive ((p.wider q).wider .int)) := by
  have promoted : l.binaryPromotion r = some (.primitive ((p.wider q).wider .int)) := by
    simp only [HostType.binaryPromotion, hl, hr, Option.bind_some, Option.map_some]
  simp only [BinaryOp.arithmetic, List.mem_cons, List.not_mem_nil, or_false] at hop
  rcases hop with rfl | rfl | rfl | rfl | rfl
  · simp only [BinaryOp.resultType, HostType.isString_of_number? hl,
      HostType.isString_of_number? hr, Bool.or_false, Bool.false_eq_true, if_false, promoted]
  all_goals exact promoted

theorem UnaryOp.resultType_of_number {op : UnaryOp} (hop : op ∈ UnaryOp.signs)
    (hl : l.number? = some p) : op.resultType l = some (.primitive (p.wider .int)) := by
  have promoted : l.unaryPromotion = some (.primitive (p.wider .int)) := by
    rw [HostType.unaryPromotion, hl, Option.map_some]
  simp only [UnaryOp.signs, List.mem_cons, List.not_mem_nil, or_false] at hop
  rcases hop with rfl | rfl <;> exact promoted

theorem BinaryOp.resultType_of_string (h : l = .string ∨ r = .string) :
    BinaryOp.add.resultType l r = some .string := by
  have isString : (l.isString || r.isString) = true := by
    rcases h with rfl | rfl
    · rfl
    · exact Bool.or_true _
  simp only [BinaryOp.resultType, isString, if_true]

end Operators

/-- A node that is built from leaves, from left to right, with so many applications of the
operators. The leaves may be nodes of any form. -/
inductive Arena.Composed (a : Arena) (binary : List BinaryOp) (unary : List UnaryOp) :
    Nat → List Nat → Nat → Prop
  | leaf (id : Nat) : Composed a binary unary id [id] 0
  | binary {id left right n n' : Nat} {op : BinaryOp} {leaves leaves' : List Nat} :
    a.form? id = some (.binary op left right) → op ∈ binary →
    Composed a binary unary left leaves n → Composed a binary unary right leaves' n' →
    Composed a binary unary id (leaves ++ leaves') (n + n' + 1)
  | unary {id operand n : Nat} {op : UnaryOp} {leaves : List Nat} :
    a.form? id = some (.unary op operand) → op ∈ unary →
    Composed a binary unary operand leaves n → Composed a binary unary id leaves (n + 1)

namespace Graph

variable {g g' : Graph} {m m' : Model} {id : Nat}

def IsNumber (m : Model) (g : Graph) (id : Nat) (p : Primitive) : Prop :=
  ∃ type, (resolveValue m id g).1 = .ok type ∧ type.number? = some p

def IsString (m : Model) (g : Graph) (id : Nat) : Prop := (resolveValue m id g).1 = .ok .string

/-- The primitive is the type of one of the leaves. -/
def LeafType (m : Model) (g : Graph) (leaves : List Nat) (p : Primitive) : Prop :=
  ∃ leaf ∈ leaves, IsNumber m g leaf p

theorem IsNumber.unique {p q : Primitive} (h : IsNumber m g id p) (h' : IsNumber m g id q) :
    q = p := by
  obtain ⟨type, htype, hp⟩ := h
  obtain ⟨type', htype', hq⟩ := h'
  obtain rfl := Except.ok.inj (htype.symm.trans htype')
  exact Option.some.inj (hq.symm.trans hp)

theorem leafType_single {p : Primitive} (h : IsNumber m g id p) (q : Primitive) :
    q = p ↔ LeafType m g [id] q := by
  simp only [LeafType, List.mem_singleton, exists_eq_left]
  exact ⟨fun hq => hq ▸ h, fun hq => h.unique hq⟩

theorem leafType_append (leaves leaves' : List Nat) (p : Primitive) :
    LeafType m g leaves p ∨ LeafType m g leaves' p ↔ LeafType m g (leaves ++ leaves') p := by
  simp only [LeafType, List.mem_append, or_and_right, exists_or]

theorem resolveValue_binary {op : BinaryOp} {left right : Nat} {l r type : HostType}
    (reachable : Reachable g) (hform : g.arena.form? id = some (.binary op left right))
    (hl : (resolveValue m left g).1 = .ok l) (hr : (resolveValue m right g).1 = .ok r)
    (h : op.resultType l r = some type) : (resolveValue m id g).1 = .ok type :=
  (resolveValue_application_iff reachable hform rfl type).2 ⟨[l, r], .cons hl (.cons hr .nil), h⟩

theorem resolveValue_unary {op : UnaryOp} {operand : Nat} {l type : HostType}
    (reachable : Reachable g) (hform : g.arena.form? id = some (.unary op operand))
    (hl : (resolveValue m operand g).1 = .ok l) (h : op.resultType l = some type) :
    (resolveValue m id g).1 = .ok type :=
  (resolveValue_application_iff reachable hform rfl type).2 ⟨[l], .cons hl .nil, h⟩

/-- A node with a promoted type is a number, and promoting it again makes no difference. -/
theorem number_of_promoted {among : Primitive → Prop} {p : Primitive}
    (type : (resolveValue m id g).1 = .ok (.primitive (p.wider .int)))
    (widest : Primitive.Widest among (p.wider .int)) :
    ∃ q, IsNumber m g id q ∧ Primitive.Widest among (q.wider .int) ∧
      (resolveValue m id g).1 = .ok (.primitive (q.wider .int)) := by
  refine ⟨p.wider .int, ⟨_, type, HostType.number?_primitive_wider p⟩, ?_, ?_⟩
  · rw [Primitive.wider_int_wider_int]
    exact widest
  · rw [Primitive.wider_int_wider_int]
    exact type

/-- Arithmetic on numbers is a number. Widened to `int` it is the widest of its leaves, and
a first operator widens it so. -/
theorem composed_number (reachable : Reachable g) {leaves : List Nat} {n : Nat}
    (h : g.arena.Composed BinaryOp.arithmetic UnaryOp.signs id leaves n)
    (numbers : ∀ leaf ∈ leaves, ∃ p, IsNumber m g leaf p) :
    ∃ p, IsNumber m g id p ∧ Primitive.Widest (LeafType m g leaves) (p.wider .int) ∧
      (0 < n → (resolveValue m id g).1 = .ok (.primitive (p.wider .int))) := by
  induction h with
  | leaf id =>
    obtain ⟨p, hp⟩ := numbers id List.mem_cons_self
    exact ⟨p, hp, (Primitive.Widest.single p).congr (leafType_single hp), fun h => (nomatch h)⟩
  | @binary id left right n n' op leaves leaves' hform hop _ _ ihl ihr =>
    obtain ⟨p, ⟨l, hl, lp⟩, widest, -⟩ :=
      ihl fun leaf h => numbers leaf (List.mem_append_left _ h)
    obtain ⟨q, ⟨r, hr, rq⟩, widest', -⟩ :=
      ihr fun leaf h => numbers leaf (List.mem_append_right _ h)
    have type := resolveValue_binary reachable hform hl hr
      (BinaryOp.resultType_of_numbers hop lp rq)
    have joined : (p.wider .int).wider (q.wider .int) = (p.wider q).wider .int := by
      apply Primitive.rank_injective
      simp only [Primitive.rank_wider]
      omega
    have union := joined ▸ widest.union widest'
    obtain ⟨q, number, widest, type⟩ :=
      number_of_promoted type (union.congr (leafType_append leaves leaves'))
    exact ⟨q, number, widest, fun _ => type⟩
  | @unary id operand n op leaves hform hop _ ih =>
    obtain ⟨p, ⟨l, hl, lp⟩, widest, -⟩ := ih numbers
    have type := resolveValue_unary reachable hform hl (UnaryOp.resultType_of_number hop lp)
    obtain ⟨q, number, widest, type⟩ := number_of_promoted type widest
    exact ⟨q, number, widest, fun _ => type⟩

theorem IsNumber.not_isString {p : Primitive} (h : IsNumber m g id p) : ¬ IsString m g id := by
  intro string
  obtain ⟨type, htype, hp⟩ := h
  obtain rfl := Except.ok.inj (htype.symm.trans string)
  cases hp

theorem IsString.sum {left right : Nat} (reachable : Reachable g)
    (hform : g.arena.form? id = some (.binary .add left right))
    (hl : ∃ l, (resolveValue m left g).1 = .ok l) (hr : ∃ r, (resolveValue m right g).1 = .ok r)
    (h : IsString m g left ∨ IsString m g right) : IsString m g id := by
  obtain ⟨l, hl⟩ := hl
  obtain ⟨r, hr⟩ := hr
  have string : l = .string ∨ r = .string :=
    h.imp (fun h => Except.ok.inj (hl.symm.trans h)) fun h => Except.ok.inj (hr.symm.trans h)
  exact resolveValue_binary reachable hform hl hr (BinaryOp.resultType_of_string string)

/-- A sum of numbers and strings is a string, or else a number with no string among its
leaves. -/
theorem composed_sum (reachable : Reachable g) {leaves : List Nat} {n : Nat}
    (h : g.arena.Composed [.add] [] id leaves n)
    (summands : ∀ leaf ∈ leaves, (∃ p, IsNumber m g leaf p) ∨ IsString m g leaf) :
    ((∃ p, IsNumber m g id p) ∧ ∀ leaf ∈ leaves, ¬ IsString m g leaf) ∨ IsString m g id := by
  induction h with
  | leaf id =>
    refine (summands id List.mem_cons_self).imp_left fun ⟨p, hp⟩ => ⟨⟨p, hp⟩, ?_⟩
    intro leaf hleaf
    exact List.mem_singleton.1 hleaf ▸ hp.not_isString
  | unary _ hop => cases hop
  | @binary id left right n n' op leaves leaves' hform hop _ _ ihl ihr =>
    obtain rfl := List.mem_singleton.1 hop
    have first := ihl fun leaf h => summands leaf (List.mem_append_left _ h)
    have second := ihr fun leaf h => summands leaf (List.mem_append_right _ h)
    rcases first with ⟨⟨p, l, hl, lp⟩, none⟩ | string
    · rcases second with ⟨⟨q, r, hr, rq⟩, none'⟩ | string
      · have type := resolveValue_binary reachable hform hl hr
          (BinaryOp.resultType_of_numbers List.mem_cons_self lp rq)
        refine .inl ⟨⟨_, _, type, HostType.number?_primitive_wider _⟩, fun leaf h => ?_⟩
        exact (List.mem_append.1 h).elim (none leaf) (none' leaf)
      · exact .inr (IsString.sum reachable hform ⟨l, hl⟩ ⟨_, string⟩ (.inr string))
    · have value : ∃ r, (resolveValue m right g).1 = .ok r := by
        rcases second with ⟨⟨q, r, hr, _⟩, _⟩ | string'
        · exact ⟨r, hr⟩
        · exact ⟨_, string'⟩
      exact .inr (IsString.sum reachable hform ⟨_, string⟩ value (.inl string))

/-- The type of an arithmetic expression is the widest of `int` and the types at its leaves,
however these are grouped, ordered and shared. So expressions with one set of leaf types have
one type, wherever they stand. A sum with a string among numbers and strings is a string. -/
theorem arithmetic_typing (reachable : Reachable g) (m : Model) :
    (∀ {id : Nat} {leaves : List Nat} {n : Nat},
      g.arena.Composed BinaryOp.arithmetic UnaryOp.signs id leaves n → 0 < n →
      (∀ leaf ∈ leaves, ∃ p, IsNumber m g leaf p) →
        (∃ w, Primitive.Widest (LeafType m g leaves) w ∧
          (resolveValue m id g).1 = .ok (.primitive w)) ∧
        ∀ {g' : Graph} {m' : Model} {id' : Nat} {leaves' : List Nat} {n' : Nat}, Reachable g' →
          g'.arena.Composed BinaryOp.arithmetic UnaryOp.signs id' leaves' n' → 0 < n' →
          (∀ leaf ∈ leaves', ∃ p, IsNumber m' g' leaf p) →
          (∀ p, LeafType m g leaves p ↔ LeafType m' g' leaves' p) →
            (resolveValue m' id' g').1 = (resolveValue m id g).1) ∧
    ∀ {id : Nat} {leaves : List Nat} {n : Nat}, g.arena.Composed [.add] [] id leaves n →
      (∀ leaf ∈ leaves, (∃ p, IsNumber m g leaf p) ∨ IsString m g leaf) →
      (∃ leaf ∈ leaves, IsString m g leaf) → IsString m g id := by
  have widest {g : Graph} (reachable : Reachable g) {m : Model} {id : Nat} {leaves : List Nat}
      {n : Nat} (h : g.arena.Composed BinaryOp.arithmetic UnaryOp.signs id leaves n) (hn : 0 < n)
      (numbers : ∀ leaf ∈ leaves, ∃ p, IsNumber m g leaf p) :
      ∃ w, Primitive.Widest (LeafType m g leaves) w ∧
        (resolveValue m id g).1 = .ok (.primitive w) := by
    obtain ⟨p, -, widest, type⟩ := composed_number reachable h numbers
    exact ⟨_, widest, type hn⟩
  refine ⟨fun h hn numbers => ⟨widest reachable h hn numbers, ?_⟩, ?_⟩
  · intro g' m' id' leaves' n' reachable' h' hn' numbers' same
    obtain ⟨w, hw, type⟩ := widest reachable h hn numbers
    obtain ⟨w', hw', type'⟩ := widest reachable' h' hn' numbers'
    rw [type, type', hw.unique hw' same]
  · intro id leaves n h summands ⟨leaf, hleaf, string⟩
    refine (composed_sum reachable h summands).resolve_left fun number => ?_
    exact number.2 leaf hleaf string

/-- Two expressions over one character and one whole number, grouped differently and with a
leaf in common, and a sum of the two with a string. -/
def grouped : Graph :=
  let char := SourceExpr.literal none .char "c"
  let long := SourceExpr.literal none .long "2L"
  applyAll [.lower (.binary none .sub (.binary none .add char long) char),
    .lower (.unary none .negate (.binary none .div long char)),
    .lower (.binary none .add (.binary none .add char (.literal none .string "s")) long)]
    (empty .empty)

theorem arithmetic_typing_grouped :
    Reachable grouped ∧
      grouped.arena.Composed BinaryOp.arithmetic UnaryOp.signs 3 [0, 1, 0] 2 ∧
      grouped.arena.Composed BinaryOp.arithmetic UnaryOp.signs 5 [1, 0] 2 ∧
      (∀ leaf ∈ [0, 1, 0], ∃ p, IsNumber oneClass grouped leaf p) ∧
      grouped.arena.Composed [.add] [] 8 [0, 6, 1] 2 ∧ IsString oneClass grouped 6 ∧
    (∃ w, Primitive.Widest (LeafType oneClass grouped [0, 1, 0]) w ∧
      (resolveValue oneClass 3 grouped).1 = .ok (.primitive w)) ∧
    (resolveValue oneClass 5 grouped).1 = (resolveValue oneClass 3 grouped).1 ∧
    IsString oneClass grouped 8 := by
  have reachable : Reachable grouped := reachable_applyAll .empty (by decide)
  have forms : grouped.arena.form? 3 = some (.binary .sub 2 0) ∧
      grouped.arena.form? 2 = some (.binary .add 0 1) ∧
      grouped.arena.form? 5 = some (.unary .negate 4) ∧
      grouped.arena.form? 4 = some (.binary .div 1 0) ∧
      grouped.arena.form? 8 = some (.binary .add 7 1) ∧
      grouped.arena.form? 7 = some (.binary .add 0 6) ∧
      (resolveValue oneClass 0 grouped).1 = .ok (.primitive .char) ∧
      (resolveValue oneClass 1 grouped).1 = .ok (.primitive .long) ∧
      (resolveValue oneClass 6 grouped).1 = .ok .string := by decide +kernel
  obtain ⟨form₃, form₂, form₅, form₄, form₈, form₇, value₀, value₁, string⟩ := forms
  have char : IsNumber oneClass grouped 0 .char := ⟨_, value₀, rfl⟩
  have long : IsNumber oneClass grouped 1 .long := ⟨_, value₁, rfl⟩
  have first : grouped.arena.Composed BinaryOp.arithmetic UnaryOp.signs 3 [0, 1, 0] 2 :=
    .binary form₃ (by decide) (.binary form₂ (by decide) (.leaf 0) (.leaf 1)) (.leaf 0)
  have second : grouped.arena.Composed BinaryOp.arithmetic UnaryOp.signs 5 [1, 0] 2 :=
    .unary form₅ (by decide) (.binary form₄ (by decide) (.leaf 1) (.leaf 0))
  have sum : grouped.arena.Composed [.add] [] 8 [0, 6, 1] 2 :=
    .binary form₈ (by decide) (.binary form₇ (by decide) (.leaf 0) (.leaf 6)) (.leaf 1)
  have numbers : ∀ leaf ∈ [0, 1, 0], ∃ p, IsNumber oneClass grouped leaf p := by
    simp only [List.forall_mem_cons]
    exact ⟨⟨_, char⟩, ⟨_, long⟩, ⟨_, char⟩, by simp⟩
  have numbers' : ∀ leaf ∈ [1, 0], ∃ p, IsNumber oneClass grouped leaf p :=
    fun leaf h => numbers leaf (List.mem_cons_of_mem _ (h : leaf ∈ [1, 0]))
  have same (p : Primitive) : LeafType oneClass grouped [0, 1, 0] p ↔
      LeafType oneClass grouped [1, 0] p := by
    simp only [LeafType, List.exists_mem_cons_iff]
    grind
  have summands : ∀ leaf ∈ [0, 6, 1], (∃ p, IsNumber oneClass grouped leaf p) ∨
      IsString oneClass grouped leaf := by
    simp only [List.forall_mem_cons]
    exact ⟨.inl ⟨_, char⟩, .inr string, .inl ⟨_, long⟩, by simp⟩
  obtain ⟨arithmetic, sums⟩ := arithmetic_typing reachable oneClass
  obtain ⟨widest, alike⟩ := arithmetic first (by decide) numbers
  exact ⟨reachable, first, second, numbers, sum, string, widest,
    alike reachable second (by decide) numbers' same,
    sums sum summands ⟨6, by decide, string⟩⟩

end Graph

end BindingGraph

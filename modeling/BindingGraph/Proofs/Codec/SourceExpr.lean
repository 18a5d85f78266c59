import Mathlib.Logic.Relation
import BindingGraph.Codec.SourceExpr
import BindingGraph.Proofs.Json.Members

/-!
# Parsed expressions survive JSON

What is written of an expression is read back, if it does not nest too deep; and a reader
minds neither the order of the members of an expression nor members that it does not know.

* `decode?_toJson`: the written form of an expression decodes to it;
* `Rearranges.decode?`: what decodes to an expression decodes to it after each change.
-/

namespace BindingGraph

open Json

namespace SourceExpr

/-! ### Writing -/

/-- Marks whose offsets can be written. -/
def MarkFits (mark : Mark) : Prop :=
  ∀ start stop, mark = some (start, stop) → start ≤ maxOffset ∧ stop ≤ maxOffset

/-- Expressions all of whose marks have offsets that can be written. -/
inductive Offsets : SourceExpr → Prop
  | mk {e : SourceExpr} (mark : MarkFits e.mark) (parts : ∀ part ∈ e.parts, Offsets part) :
    Offsets e

theorem Offsets.mark {e : SourceExpr} (h : Offsets e) : MarkFits e.mark := by
  cases h
  assumption

theorem Offsets.of_mem_parts {e part : SourceExpr} (h : Offsets e) (hpart : part ∈ e.parts) :
    Offsets part := by
  obtain ⟨_, hparts⟩ := h
  exact hparts part hpart

def kind : SourceExpr → Kind
  | identifier _ _ => .identifier
  | literal _ _ _ => .literal
  | field _ _ _ => .field
  | call _ _ _ _ => .call
  | binary _ _ _ _ => .binary
  | unary _ _ _ => .unary
  | choice _ _ _ _ => .choice

/-- The members of a written expression that depend on its kind. -/
def members : SourceExpr → List (String × Json)
  | identifier _ name => [("name", .string name)]
  | literal _ kind word => [("literal", .string kind.tag), ("text", .string word)]
  | field _ target name => [("target", target.toJson), ("field", .string name)]
  | call _ target method args =>
    [("target", target.toJson), ("method", .string method), ("args", .array (args.map toJson))]
  | binary _ op left right =>
    [("op", .string op.symbol), ("lhs", left.toJson), ("rhs", right.toJson)]
  | unary _ op operand => [("op", .string op.symbol), ("operand", operand.toJson)]
  | choice _ condition thenBranch elseBranch =>
    [("condition", condition.toJson), ("then_branch", thenBranch.toJson),
      ("else_branch", elseBranch.toJson)]

theorem toJsonAll_eq_map (es : List SourceExpr) : toJsonAll es = es.map toJson := by
  induction es with
  | nil => rfl
  | cons e rest ih => rw [toJsonAll, ih, List.map_cons]

/-- All members of a written expression: its kind, what the kind asks for, and its mark. -/
def written (e : SourceExpr) : List (String × Json) :=
  ("kind", .string e.kind.name) :: (e.members ++ markMember e.mark)

theorem toJson_eq (e : SourceExpr) : e.toJson = .record e.written := by
  cases e <;> simp [toJson, written, toJsonAll_eq_map, kind, Kind.name, members, mark]

theorem legible_markMember {mark : Mark} (h : MarkFits mark) :
    ∀ p ∈ markMember mark, Legible IsOffset p.2 := by
  cases mark with
  | none => simp [markMember]
  | some offsets =>
    obtain ⟨hstart, hstop⟩ := h _ _ rfl
    refine List.forall_mem_singleton.2 (.array ?_)
    exact List.forall_mem_cons.2 ⟨.number ⟨_, hstart, rfl⟩,
      List.forall_mem_singleton.2 (.number ⟨_, hstop, rfl⟩)⟩

/-- The only numbers in a written expression are the offsets of its marks. -/
theorem legible_written {e : SourceExpr} (h : Offsets e) :
    ∀ p ∈ e.written, Legible IsOffset p.2 := by
  induction e using inductionOnParts with
  | step e ih =>
    have hpart : ∀ part ∈ e.parts, Legible IsOffset part.toJson := by
      intro part hmem
      rw [toJson_eq]
      exact .record (ih part hmem (h.of_mem_parts hmem))
    have hmembers : ∀ p ∈ e.members, Legible IsOffset p.2 := by
      cases e with
      | call mark target method args =>
        have hargs : Legible IsOffset (.array (args.map toJson)) :=
          .array (List.forall_mem_map.2 fun arg harg => hpart arg (List.mem_cons_of_mem _ harg))
        simp [members, hargs, hpart target List.mem_cons_self]
      | _ => simp_all [members, parts]
    refine List.forall_mem_cons.2 ⟨.string _, ?_⟩
    exact List.forall_mem_append.2 ⟨hmembers, legible_markMember h.mark⟩

theorem legible_toJson {e : SourceExpr} (h : Offsets e) : Legible IsOffset e.toJson := by
  rw [toJson_eq]
  exact .record (legible_written h)

/-! ### Reading what was written -/

theorem Kind.ofJson?_name (kind : Kind) : Kind.ofJson? (.string kind.name) = some kind := by
  cases kind <;> decide

def args? (part : Json → Option SourceExpr) (members : List (String × Json)) :
    Option (List SourceExpr) :=
  (single? members "args").bind (optional? (listOf? part) [])

def Kind.read? (part : Json → Option SourceExpr) (mark : Mark) (members : List (String × Json)) :
    Kind → Option SourceExpr
  | identifier => (member? string? members "name").map (.identifier mark)
  | literal => do
    let kind ← member? (·.wordWithin?.bind LiteralKind.ofTag?) members "literal"
    return .literal mark kind (← member? string? members "text")
  | field => do
    let target ← member? part members "target"
    return .field mark target (← member? string? members "field")
  | call => do
    let target ← member? part members "target"
    let method ← member? string? members "method"
    return .call mark target method (← args? part members)
  | binary => do
    let op ← member? (·.wordWithin?.bind BinaryOp.ofSymbol?) members "op"
    return .binary mark op (← member? part members "lhs") (← member? part members "rhs")
  | unary => do
    let op ← member? (·.wordWithin?.bind UnaryOp.ofSymbol?) members "op"
    return .unary mark op (← member? part members "operand")
  | choice => do
    let condition ← member? part members "condition"
    let thenBranch ← member? part members "then_branch"
    return .choice mark condition thenBranch (← member? part members "else_branch")

theorem ofMembers?_eq_some_iff {part : Json → Option SourceExpr} {members : List (String × Json)}
    {e : SourceExpr} : ofMembers? part members = some e ↔ ∃ mark kind, mark? members = some mark ∧
      member? Kind.ofJson? members "kind" = some kind ∧ kind.read? part mark members = some e := by
  have form : ofMembers? part members = (mark? members).bind fun mark =>
      (member? Kind.ofJson? members "kind").bind fun kind => kind.read? part mark members := by
    unfold ofMembers?
    refine congrArg _ (funext fun mark => congrArg _ (funext fun kind => ?_))
    cases kind with
    | identifier => exact Option.map_eq_bind.symm
    | _ => rfl
  simp only [form, Option.bind_eq_some_iff, exists_and_left]

/-- No two members of a written expression have one name. -/
theorem nodup_written (e : SourceExpr) : (e.written.map (·.1)).Nodup := by
  unfold written
  cases e.mark <;> cases e <;> simp [members, markMember]

/-- Each member of a written expression is found. -/
theorem member?_written {α : Type} (e : SourceExpr) (decode : Json → Option α) {name : String}
    {v : Json} (h : (name, v) ∈ e.written) : member? decode e.written name = decode v := by
  rw [member?, single?_of_mem e.nodup_written h, Option.bind_some, required?]

theorem mark?_written {e : SourceExpr} (h : MarkFits e.mark) : mark? e.written = some e.mark := by
  cases hmark : e.mark with
  | none =>
    have hnone : single? e.written "span" = some none := by
      unfold single? written
      rw [hmark]
      cases e <;> simp [members, markMember]
    rw [mark?, hnone]
    rfl
  | some offsets =>
    obtain ⟨start, stop⟩ := offsets
    obtain ⟨hstart, hstop⟩ := h start stop hmark
    have hmem : ("span", .array [.nat start, .nat stop]) ∈ e.written := by
      simp [written, hmark, markMember]
    rw [mark?, single?_of_mem e.nodup_written hmem]
    simp [optional?, nullable?, offsets?, offset?, natUpTo?_nat hstart, natUpTo?_nat hstop]

theorem decode?_record (depth : Nat) (members : List (String × Json)) :
    decode? (depth + 1) (.record members) = ofMembers? (decode? depth) members := by
  rw [decode?, members?_record, Option.bind_some]

/-- An expression is read from what is written of it when its parts are. -/
theorem read?_written {part : Json → Option SourceExpr} (e : SourceExpr)
    (h : ∀ p ∈ e.parts, part p.toJson = some p) :
    e.kind.read? part e.mark e.written = some e := by
  have get {α : Type} (decode : Json → Option α) (name : String) {v : Json}
      (hmem : (name, v) ∈ e.members) : member? decode e.written name = decode v :=
    e.member?_written decode (List.mem_cons_of_mem _ (List.mem_append_left _ hmem))
  have getPart (name : String) {p : SourceExpr} (hpart : p ∈ e.parts)
      (hmem : (name, p.toJson) ∈ e.members) : member? part e.written name = some p := by
    rw [get part name hmem, h p hpart]
  cases e with
  | identifier mark name =>
    simp only [kind, Kind.read?]
    rw [get string? "name" (v := .string name) (by simp [members])]
    rfl
  | literal mark kind word =>
    simp only [SourceExpr.kind, Kind.read?]
    rw [get _ "literal" (v := .string kind.tag) (by simp [members]),
      get string? "text" (v := .string word) (by simp [members])]
    simp [Json.string, wordWithin?, word?, string?, LiteralKind.ofTag?_tag, SourceExpr.mark]
  | field mark target name =>
    simp only [kind, Kind.read?]
    rw [getPart "target" (p := target) (by simp [parts]) (by simp [members]),
      get string? "field" (v := .string name) (by simp [members])]
    rfl
  | call mark target method args =>
    have hargs : single? (call mark target method args).written "args" =
        some (some (.array (args.map toJson))) :=
      single?_of_mem (nodup_written _) (by simp [written, members])
    simp only [kind, Kind.read?]
    rw [getPart "target" (p := target) (by simp [parts]) (by simp [members]),
      get string? "method" (v := .string method) (by simp [members]), args?, hargs,
      Option.bind_some, optional?, listOf?_map fun arg harg => h arg (List.mem_cons_of_mem _ harg)]
    rfl
  | binary mark op left right =>
    simp only [kind, Kind.read?]
    rw [get _ "op" (v := .string op.symbol) (by simp [members]),
      getPart "lhs" (p := left) (by simp [parts]) (by simp [members]),
      getPart "rhs" (p := right) (by simp [parts]) (by simp [members])]
    simp [Json.string, wordWithin?, word?, BinaryOp.ofSymbol?_symbol, SourceExpr.mark]
  | unary mark op operand =>
    simp only [kind, Kind.read?]
    rw [get _ "op" (v := .string op.symbol) (by simp [members]),
      getPart "operand" (p := operand) (by simp [parts]) (by simp [members])]
    simp [Json.string, wordWithin?, word?, UnaryOp.ofSymbol?_symbol, SourceExpr.mark]
  | choice mark condition thenBranch elseBranch =>
    simp only [kind, Kind.read?]
    rw [getPart "condition" (p := condition) (by simp [parts]) (by simp [members]),
      getPart "then_branch" (p := thenBranch) (by simp [parts]) (by simp [members]),
      getPart "else_branch" (p := elseBranch) (by simp [parts]) (by simp [members])]
    rfl

/-- Each part is written as a member, or as an item of one. -/
theorem written_of_mem_parts {e part : SourceExpr} (h : part ∈ e.parts) :
    (∃ name, (name, part.toJson) ∈ e.members) ∨
      ∃ name items, (name, .array items) ∈ e.members ∧ part.toJson ∈ items := by
  cases e with
  | identifier mark name => cases h
  | literal mark kind word => cases h
  | field mark target name =>
    rw [List.mem_singleton.1 h]
    exact .inl ⟨"target", by simp [members]⟩
  | call mark target method args =>
    rcases List.mem_cons.1 h with rfl | harg
    · exact .inl ⟨"target", by simp [members]⟩
    · exact .inr ⟨"args", args.map toJson, by simp [members], List.mem_map_of_mem harg⟩
  | binary mark op left right =>
    simp only [parts, List.mem_cons, List.not_mem_nil, or_false] at h
    rcases h with rfl | rfl
    · exact .inl ⟨"lhs", by simp [members]⟩
    · exact .inl ⟨"rhs", by simp [members]⟩
  | unary mark op operand =>
    rw [List.mem_singleton.1 h]
    exact .inl ⟨"operand", by simp [members]⟩
  | choice mark condition thenBranch elseBranch =>
    simp only [parts, List.mem_cons, List.not_mem_nil, or_false] at h
    rcases h with rfl | rfl | rfl
    · exact .inl ⟨"condition", by simp [members]⟩
    · exact .inl ⟨"then_branch", by simp [members]⟩
    · exact .inl ⟨"else_branch", by simp [members]⟩

/-- A part is nested less deep than the whole. -/
theorem nesting_toJson_lt {e part : SourceExpr} (h : part ∈ e.parts) :
    part.toJson.nesting < e.toJson.nesting := by
  have hmember (name : String) (v : Json) (hv : (name, v) ∈ e.members) :
      v.nesting < e.toJson.nesting := by
    rw [toJson_eq]
    exact nesting_lt_of_mem (List.mem_cons_of_mem _ (List.mem_append_left _ hv))
  obtain ⟨name, hpart⟩ | ⟨name, items, hitems, hpart⟩ := written_of_mem_parts h
  · exact hmember name _ hpart
  · exact Nat.lt_trans (nesting_lt_of_mem_items hpart) (hmember name _ hitems)

/-- The written form of an expression decodes to it. -/
theorem decode?_toJson {e : SourceExpr} (h : Offsets e) {depth : Nat}
    (hdepth : e.toJson.nesting ≤ depth) : decode? depth e.toJson = some e := by
  induction e using inductionOnParts generalizing depth with
  | step e ih =>
    cases depth with
    | zero =>
      rw [toJson_eq, record, nesting] at hdepth
      exact absurd hdepth (Nat.not_succ_le_zero _)
    | succ depth =>
      have hread : ∀ part ∈ e.parts, decode? depth part.toJson = some part := by
        intro part hpart
        have hlt := nesting_toJson_lt hpart
        exact ih part hpart (h.of_mem_parts hpart) (by omega)
      rw [toJson_eq, decode?_record, ofMembers?_eq_some_iff]
      refine ⟨e.mark, e.kind, mark?_written h.mark, ?_, read?_written e hread⟩
      rw [e.member?_written Kind.ofJson? List.mem_cons_self, Kind.ofJson?_name]

/-! ### Reading what was rearranged -/

/-- The names of the members that a kind asks for. -/
def Kind.memberNames : Kind → List String
  | identifier => ["name"]
  | literal => ["literal", "text"]
  | field => ["target", "field"]
  | call => ["target", "method", "args"]
  | binary => ["op", "lhs", "rhs"]
  | unary => ["op", "operand"]
  | choice => ["condition", "then_branch", "else_branch"]

/-- The names of the members that are expressions. -/
def partNames : List String :=
  ["target", "lhs", "rhs", "operand", "condition", "then_branch", "else_branch"]

/-- One change of an object that nests at most `limit` deep, or of an expression in it:
its members in another order, or one more member of a name that its kind does not ask
for. -/
inductive Rearranges : (limit : Nat) → Json → Json → Prop
  | permute {limit : Nat} {members members' : List (String × Json)} (h : members.Perm members') :
    Rearranges limit (.record members) (.record members')
  | add {limit : Nat} {members : List (String × Json)} {kind : Kind} {name : String} {v : Json}
    (hkind : member? Kind.ofJson? members "kind" = some kind)
    (hname : name ∉ "kind" :: "span" :: kind.memberNames) (hsound : v.sound limit = true) :
    Rearranges (limit + 1) (.record members) (.record ((name, v) :: members))
  | part {limit : Nat} {before after : List (String × Json)} {name : String} {v v' : Json}
    (hname : name ∈ partNames) (h : Rearranges limit v v') :
    Rearranges (limit + 1) (.record (before ++ (name, v) :: after))
      (.record (before ++ (name, v') :: after))
  | argument {limit : Nat} {before after : List (String × Json)} {first last : List Json}
    {v v' : Json} (h : Rearranges limit v v') :
    Rearranges (limit + 2) (.record (before ++ ("args", .array (first ++ v :: last)) :: after))
      (.record (before ++ ("args", .array (first ++ v' :: last)) :: after))

/-- A rearranged value is within the limits that the value was within. -/
theorem Rearranges.sound {limit : Nat} {v v' : Json} (h : Rearranges limit v v')
    (hsound : v.sound limit = true) : v'.sound limit = true := by
  induction h with
  | @permute limit members members' h =>
    cases limit with
    | zero => cases hsound
    | succ limit =>
      rw [sound_record] at hsound ⊢
      exact fun p hp => hsound p (h.mem_iff.2 hp)
  | add _ _ hv =>
    rw [sound_record] at hsound ⊢
    exact List.forall_mem_cons.2 ⟨hv, hsound⟩
  | part _ _ ih =>
    rw [sound_record] at hsound ⊢
    simp only [List.forall_mem_append, List.forall_mem_cons] at hsound ⊢
    exact ⟨hsound.1, ih hsound.2.1, hsound.2.2⟩
  | argument _ ih =>
    rw [sound_record] at hsound ⊢
    simp only [List.forall_mem_append, List.forall_mem_cons, Json.sound,
      List.all_eq_true] at hsound ⊢
    obtain ⟨hbefore, ⟨hfirst, hv, hlast⟩, hafter⟩ := hsound
    exact ⟨hbefore, ⟨hfirst, ih hv, hlast⟩, hafter⟩

/-- Members from which an expression of a kind is read that is read from others. -/
structure Follows (part : Json → Option SourceExpr) (kind : Kind)
    (members members' : List (String × Json)) : Prop where
  plain : ∀ name ∈ "kind" :: "span" :: kind.memberNames, name ∉ "args" :: partNames →
    single? members' name = single? members name
  expression : ∀ name ∈ kind.memberNames, name ∈ partNames → ∀ e,
    member? part members name = some e → member? part members' name = some e
  arguments : "args" ∈ kind.memberNames → ∀ es,
    args? part members = some es → args? part members' = some es

theorem Follows.read? {part : Json → Option SourceExpr} {kind : Kind} {mark : Mark}
    {members members' : List (String × Json)} {e : SourceExpr}
    (follows : Follows part kind members members') (h : kind.read? part mark members = some e) :
    kind.read? part mark members' = some e := by
  have plain {α : Type} {decode : Json → Option α} {a : α} (name : String)
      (hname : name ∈ "kind" :: "span" :: kind.memberNames) (hplain : name ∉ "args" :: partNames)
      (h : member? decode members name = some a) : member? decode members' name = some a := by
    rwa [member?, follows.plain name hname hplain]
  cases kind with
  | identifier =>
    simp only [Kind.read?, Option.map_eq_some_iff] at h ⊢
    obtain ⟨name, hname, he⟩ := h
    exact ⟨name, plain "name" (by decide) (by decide) hname, he⟩
  | literal =>
    simp only [Kind.read?, Option.bind_eq_bind, Option.bind_eq_some_iff] at h ⊢
    obtain ⟨kind, hkind, word, hword, he⟩ := h
    exact ⟨kind, plain "literal" (by decide) (by decide) hkind, word,
      plain "text" (by decide) (by decide) hword, he⟩
  | field =>
    simp only [Kind.read?, Option.bind_eq_bind, Option.bind_eq_some_iff] at h ⊢
    obtain ⟨target, htarget, name, hname, he⟩ := h
    exact ⟨target, follows.expression "target" (by decide) (by decide) _ htarget, name,
      plain "field" (by decide) (by decide) hname, he⟩
  | call =>
    simp only [Kind.read?, Option.bind_eq_bind, Option.bind_eq_some_iff] at h ⊢
    obtain ⟨target, htarget, method, hmethod, args, hargs, he⟩ := h
    exact ⟨target, follows.expression "target" (by decide) (by decide) _ htarget, method,
      plain "method" (by decide) (by decide) hmethod, args,
      follows.arguments (by decide) _ hargs, he⟩
  | binary =>
    simp only [Kind.read?, Option.bind_eq_bind, Option.bind_eq_some_iff] at h ⊢
    obtain ⟨op, hop, left, hleft, right, hright, he⟩ := h
    exact ⟨op, plain "op" (by decide) (by decide) hop,
      left, follows.expression "lhs" (by decide) (by decide) _ hleft,
      right, follows.expression "rhs" (by decide) (by decide) _ hright, he⟩
  | unary =>
    simp only [Kind.read?, Option.bind_eq_bind, Option.bind_eq_some_iff] at h ⊢
    obtain ⟨op, hop, operand, hoperand, he⟩ := h
    exact ⟨op, plain "op" (by decide) (by decide) hop,
      operand, follows.expression "operand" (by decide) (by decide) _ hoperand, he⟩
  | choice =>
    simp only [Kind.read?, Option.bind_eq_bind, Option.bind_eq_some_iff] at h ⊢
    obtain ⟨condition, hcondition, thenBranch, hthen, elseBranch, helse, he⟩ := h
    exact ⟨condition, follows.expression "condition" (by decide) (by decide) _ hcondition,
      thenBranch, follows.expression "then_branch" (by decide) (by decide) _ hthen,
      elseBranch, follows.expression "else_branch" (by decide) (by decide) _ helse, he⟩

theorem Follows.ofMembers? {part : Json → Option SourceExpr}
    {members members' : List (String × Json)} {e : SourceExpr}
    (follows : ∀ kind, member? Kind.ofJson? members "kind" = some kind →
      Follows part kind members members')
    (h : SourceExpr.ofMembers? part members = some e) :
    SourceExpr.ofMembers? part members' = some e := by
  obtain ⟨mark, kind, hmark, hkind, hread⟩ := ofMembers?_eq_some_iff.1 h
  have hplain := (follows kind hkind).plain
  rw [ofMembers?_eq_some_iff]
  refine ⟨mark, kind, ?_, ?_, (follows kind hkind).read? hread⟩
  · rwa [mark?, hplain "span" (by simp) (by decide)]
  · rwa [member?, hplain "kind" (by simp) (by decide)]

/-- Members that are found alike are read alike. -/
theorem Follows.of_single? {part : Json → Option SourceExpr} {kind : Kind}
    {members members' : List (String × Json)}
    (h : ∀ name ∈ "kind" :: "span" :: kind.memberNames,
      single? members' name = single? members name) : Follows part kind members members' where
  plain name hname _ := h name hname
  expression name hname _ e he := by
    rwa [member?, h name (List.mem_cons_of_mem _ (List.mem_cons_of_mem _ hname))]
  arguments hargs es hes := by
    rwa [args?, h "args" (List.mem_cons_of_mem _ (List.mem_cons_of_mem _ hargs))]

/-- Another value that is read as the old one was, under the name of an expression. -/
theorem Follows.set_part {part : Json → Option SourceExpr} {kind : Kind}
    {before after : List (String × Json)} {key : String} {v v' : Json} (hkey : key ∈ partNames)
    (hv : ∀ e, part v = some e → part v' = some e) :
    Follows part kind (before ++ (key, v) :: after) (before ++ (key, v') :: after) where
  plain name _ hplain := by
    refine single?_set_of_ne fun heq => hplain ?_
    exact List.mem_cons_of_mem _ (heq ▸ hkey)
  expression name _ _ e he := by
    by_cases heq : key = name
    · subst heq
      obtain ⟨found, hfound, hread⟩ := Option.bind_eq_some_iff.1 he
      obtain ⟨rfl, hset⟩ := single?_set hfound
      rw [member?, hset]
      exact hv e hread
    · rwa [member?, single?_set_of_ne heq]
  arguments _ es hes := by
    have hne : key ≠ "args" := by rintro rfl; exact absurd hkey (by decide)
    rwa [args?, single?_set_of_ne hne]

/-- Other arguments that are read as the old ones were. -/
theorem Follows.set_args {part : Json → Option SourceExpr} {kind : Kind}
    {before after : List (String × Json)} {v v' : Json}
    (hv : ∀ es, listOf? part v = some es → listOf? part v' = some es) :
    Follows part kind (before ++ ("args", v) :: after) (before ++ ("args", v') :: after) where
  plain name _ hplain := single?_set_of_ne fun heq => hplain (heq ▸ List.mem_cons_self)
  expression name _ hpart e he := by
    have hne : "args" ≠ name := by rintro rfl; exact absurd hpart (by decide)
    rwa [member?, single?_set_of_ne hne]
  arguments _ es hes := by
    obtain ⟨found, hfound, hread⟩ := Option.bind_eq_some_iff.1 hes
    obtain ⟨rfl, hset⟩ := single?_set hfound
    rw [args?, hset]
    exact hv es hread

/-- What decodes to an expression decodes to it after each change. -/
theorem Rearranges.decode? {limit : Nat} {v v' : Json} (h : Rearranges limit v v') {depth : Nat}
    {e : SourceExpr} (hdecode : decode? depth v = some e) : decode? depth v' = some e := by
  induction h generalizing depth e with
  | permute h =>
    cases depth with
    | zero => cases hdecode
    | succ depth =>
      rw [decode?_record] at hdecode ⊢
      exact Follows.ofMembers?
        (fun _ _ => .of_single? fun name _ => (single?_perm h name).symm) hdecode
  | add hkind hname _ =>
    cases depth with
    | zero => cases hdecode
    | succ depth =>
      rw [decode?_record] at hdecode ⊢
      refine Follows.ofMembers? (fun kind hkind' => .of_single? fun name' hname' => ?_) hdecode
      rw [hkind] at hkind'
      cases hkind'
      refine single?_cons_of_ne fun heq => hname ?_
      rwa [← heq] at hname'
  | part hname _ ih =>
    cases depth with
    | zero => cases hdecode
    | succ depth =>
      rw [decode?_record] at hdecode ⊢
      exact Follows.ofMembers? (fun _ _ => .set_part hname fun e => ih) hdecode
  | argument _ ih =>
    cases depth with
    | zero => cases hdecode
    | succ depth =>
      rw [decode?_record] at hdecode ⊢
      exact Follows.ofMembers? (fun _ _ => .set_args fun es => listOf?_set fun e => ih) hdecode

/-! ### Texts -/

def ofText? (text : String) : Option SourceExpr := (read? text).bind (ofJson? 0)

theorem ofText?_eq_some_iff {text : String} {v : Json} (hread : Json.read? text = some v)
    {e : SourceExpr} :
    ofText? text = some e ↔ v.sound maxDepth = true ∧ decode? maxDepth v = some e := by
  rw [ofText?, hread, Option.bind_some, ofJson?]
  simp

/-- What is written of an expression is read back exactly when it does not nest too deep.
And whatever text describes an expression, every text whose value differs from that of the
first by changes of its objects, and of those of its parts, in the order of their members and
in members that they do not need, describes the same. -/
theorem json_faithful :
    (∀ e : SourceExpr, Offsets e →
      (ofText? e.toJson.compact = some e ↔ e.toJson.nesting ≤ maxDepth)) ∧
    ∀ (text text' : String) (v v' : Json) (e : SourceExpr),
      Json.read? text = some v → Json.read? text' = some v' →
      Relation.ReflTransGen (Rearranges maxDepth) v v' →
      ofText? text = some e → ofText? text' = some e := by
  refine ⟨fun e hoffsets => ?_, fun text text' v v' e hread hread' hchanges h => ?_⟩
  · have hlegible := legible_toJson hoffsets
    have hread := read?_compact (hlegible.mono fun _ => IsOffset.isNumeral)
    rw [ofText?_eq_some_iff hread, sound_iff_nesting_le (hlegible.mono fun _ => IsOffset.inRange)]
    exact ⟨And.left, fun hnesting => ⟨hnesting, decode?_toJson hoffsets hnesting⟩⟩
  · rw [ofText?_eq_some_iff hread] at h
    rw [ofText?_eq_some_iff hread']
    clear hread'
    induction hchanges with
    | refl => exact h
    | tail _ hstep ih => exact ⟨hstep.sound ih.1, hstep.decode? ih.2⟩

/-- A sum with a mark in the wrong order, and a call without arguments. -/
def markedSum : SourceExpr :=
  .binary (some (5, 3)) .add (.call none (.identifier none "x") "f" []) (.identifier none "a\"b")

def calledMembers : List (String × Json) :=
  (SourceExpr.call none (.identifier none "x") "f" []).written

/-- The members of the sum beside its mark, with a note at the called expression. -/
def notedMembers : List (String × Json) :=
  [("kind", .string "binary"), ("op", .string "+"),
    ("lhs", .record (("note", .array [.null]) :: calledMembers)),
    ("rhs", (SourceExpr.identifier none "a\"b").toJson)]

def rearrangedSum : Json := .record (("span", .array [.nat 5, .nat 3]) :: notedMembers)

theorem json_faithful_rearrangedSum :
    ofText? markedSum.toJson.compact = some markedSum ∧
      ofText? rearrangedSum.compact = some markedSum := by
  have hname (s : String) : Offsets (.identifier none s) :=
    .mk (fun _ _ h => by cases h) (fun _ h => by cases h)
  have hcalled : Offsets (.call none (.identifier none "x") "f" []) :=
    .mk (fun _ _ h => by cases h) (List.forall_mem_singleton.2 (hname "x"))
  have hsum : Offsets markedSum := by
    refine .mk (fun start stop h => ?_)
      (List.forall_mem_cons.2 ⟨hcalled, List.forall_mem_singleton.2 (hname _)⟩)
    cases h
    decide
  have hwritten : ofText? markedSum.toJson.compact = some markedSum :=
    (json_faithful.1 markedSum hsum).2 (by decide)
  refine ⟨hwritten, ?_⟩
  have hread {v : Json} (h : Legible IsOffset v) : Json.read? v.compact = some v :=
    read?_compact (h.mono fun _ => IsOffset.isNumeral)
  have hnoted : Legible IsOffset (.record (("note", .array [.null]) :: calledMembers)) :=
    .record (List.forall_mem_cons.2
      ⟨.array (List.forall_mem_singleton.2 .null), legible_written hcalled⟩)
  have hlegible : Legible IsOffset rearrangedSum := by
    refine .record (List.forall_mem_cons.2 ⟨?_, ?_⟩)
    · exact legible_markMember hsum.mark ("span", .array [.nat 5, .nat 3]) List.mem_cons_self
    · simp [notedMembers, hnoted, legible_toJson (hname _)]
  have hnote : Rearranges maxDepth markedSum.toJson
      (.record (notedMembers ++ [("span", .array [.nat 5, .nat 3])])) :=
    @Rearranges.part 126 [("kind", .string "binary"), ("op", .string "+")] _ "lhs" _ _ (by decide)
      (@Rearranges.add 125 calledMembers .call "note" (.array [.null]) (by decide) (by decide)
        (by decide))
  have hfront : Rearranges maxDepth (.record (notedMembers ++ [("span", .array [.nat 5, .nat 3])]))
      rearrangedSum := .permute List.perm_append_comm
  exact json_faithful.2 _ _ _ _ _ (hread (legible_toJson hsum)) (hread hlegible)
    (.tail (.single hnote) hfront) hwritten

end SourceExpr

end BindingGraph

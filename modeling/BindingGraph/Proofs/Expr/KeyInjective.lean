import BindingGraph.Expr.Basic
import BindingGraph.Proofs.Text.SelfDelimiting

/-!
# Keys tell expressions apart

A key can be read in one way only, whatever text follows it, so no two expressions
share one.

* `Expr.key_append_inj`: keys are self-delimiting;
* `Expr.key_injective`: different expressions have different keys.
-/

namespace BindingGraph

open Text

namespace Key

@[simp] theorem toList_identifier (name : String) :
    (identifier name).toList = 'i' :: 'd' :: '(' :: ((writtenName name).toList ++ [')']) := by
  simp [identifier]

@[simp] theorem toList_literal (kind : LiteralKind) (text : String) :
    (literal kind text).toList =
      'l' :: 'i' :: 't' :: ':' :: (kind.tag.toList ++ '(' :: ((quoted text).toList ++ [')'])) := by
  simp [literal]

@[simp] theorem toList_field (target name : String) :
    (field target name).toList = 'f' :: 'i' :: 'e' :: 'l' :: 'd' :: '(' ::
      (target.toList ++ '.' :: ((writtenName name).toList ++ [')'])) := by
  simp [field]

@[simp] theorem toList_call (target method : String) (args : List String) :
    (call target method args).toList = 'c' :: 'a' :: 'l' :: 'l' :: '(' ::
      (target.toList ++ '.' :: ((writtenName method).toList ++
        '(' :: ((",".intercalate args).toList ++ [')', ')']))) := by
  simp [call]

@[simp] theorem toList_binary (op : BinaryOp) (left right : String) :
    (binary op left right).toList = 'b' :: 'i' :: 'n' :: '(' ::
      (left.toList ++ ' ' :: (op.symbol.toList ++ ' ' :: (right.toList ++ [')']))) := by
  simp [binary]

@[simp] theorem toList_unary (op : UnaryOp) (operand : String) :
    (unary op operand).toList =
      'u' :: 'n' :: '(' :: (op.symbol.toList ++ (operand.toList ++ [')'])) := by
  simp [unary]

@[simp] theorem toList_choice (condition thenBranch elseBranch : String) :
    (choice condition thenBranch elseBranch).toList = 't' :: 'e' :: 'r' :: 'n' :: '(' ::
      (condition.toList ++ ' ' :: '?' :: ' ' ::
        (thenBranch.toList ++ ' ' :: ':' :: ' ' :: (elseBranch.toList ++ [')']))) := by
  simp [choice]

end Key

namespace Expr

/-- The first letter of the key, which tells the kind of the expression. -/
def initial : Expr → Char
  | identifier _ => 'i'
  | literal _ _ => 'l'
  | field _ _ => 'f'
  | call _ _ _ => 'c'
  | binary _ _ _ => 'b'
  | unary _ _ => 'u'
  | choice _ _ _ => 't'

theorem head?_key (e : Expr) : e.key.toList.head? = some e.initial := by
  cases e <;> simp only [key, Key.toList_identifier, Key.toList_literal, Key.toList_field,
    Key.toList_call, Key.toList_binary, Key.toList_unary, Key.toList_choice, List.head?_cons,
    initial]

theorem initial_eq_of_key_append {e e' : Expr} {r r' : List Char}
    (h : e.key.toList ++ r = e'.key.toList ++ r') : e.initial = e'.initial := by
  have hhead := congrArg List.head? h
  rw [List.head?_append, List.head?_append, head?_key, head?_key] at hhead
  exact Option.some.inj hhead

/-- No key begins like the end of a list of arguments. -/
theorem key_append_ne_close (e : Expr) (r s : List Char) : e.key.toList ++ r ≠ ')' :: s := by
  intro h
  have hhead := congrArg List.head? h
  rw [List.head?_append, head?_key] at hhead
  have hi : e.initial = ')' := Option.some.inj hhead
  cases e <;> simp [initial] at hi

end Expr

namespace Key

/-- The arguments after the first, each with the comma before it. -/
def furtherArguments (args : List String) : List Char := args.flatMap fun a => ',' :: a.toList

theorem toList_intercalate_cons (a : String) (rest : List String) :
    (",".intercalate (a :: rest)).toList = a.toList ++ furtherArguments rest := by
  induction rest generalizing a with
  | nil => simp [furtherArguments]
  | cons b rest ih =>
    rw [String.intercalate_cons_cons, String.toList_append, ih]
    simp [furtherArguments]

end Key

namespace Expr

/-- Two expressions whose keys can be told from what follows them. -/
def KeyEnds (e : Expr) : Prop :=
  ∀ {e' : Expr} {r r' : List Char}, e.key.toList ++ r = e'.key.toList ++ r' → e = e' ∧ r = r'

theorem furtherArguments_append_inj {es es' : List Expr} {r r' : List Char}
    (ends : ∀ e ∈ es, KeyEnds e)
    (h : Key.furtherArguments (es.map key) ++ ')' :: r =
      Key.furtherArguments (es'.map key) ++ ')' :: r') : es = es' ∧ r = r' := by
  induction es generalizing es' with
  | nil =>
    cases es' with
    | nil => exact ⟨rfl, (List.cons.inj h).2⟩
    | cons e' rest' => exact absurd (List.cons.inj h).1 (by decide)
  | cons e rest ih =>
    cases es' with
    | nil => exact absurd (List.cons.inj h).1 (by decide)
    | cons e' rest' =>
      simp only [Key.furtherArguments, List.map_cons, List.flatMap_cons, List.cons_append,
        List.append_assoc] at h
      obtain ⟨he, htail⟩ := ends e List.mem_cons_self (List.cons.inj h).2
      obtain ⟨hrest, hr⟩ := ih (fun x hx => ends x (List.mem_cons_of_mem _ hx)) htail
      exact ⟨by rw [he, hrest], hr⟩

/-- The arguments of a call end at the first parenthesis that no key begins with. -/
theorem arguments_append_inj {es es' : List Expr} {r r' : List Char}
    (ends : ∀ e ∈ es, KeyEnds e)
    (h : (",".intercalate (es.map key)).toList ++ ')' :: r =
      (",".intercalate (es'.map key)).toList ++ ')' :: r') : es = es' ∧ r = r' := by
  cases es with
  | nil =>
    cases es' with
    | nil => exact ⟨rfl, (List.cons.inj h).2⟩
    | cons e' rest' =>
      rw [List.map_cons, Key.toList_intercalate_cons, List.append_assoc] at h
      exact absurd h.symm (key_append_ne_close e' _ _)
  | cons e rest =>
    cases es' with
    | nil =>
      rw [List.map_cons, Key.toList_intercalate_cons, List.append_assoc] at h
      exact absurd h (key_append_ne_close e _ _)
    | cons e' rest' =>
      simp only [List.map_cons, Key.toList_intercalate_cons, List.append_assoc] at h
      obtain ⟨he, htail⟩ := ends e List.mem_cons_self h
      obtain ⟨hrest, hr⟩ := furtherArguments_append_inj
        (fun x hx => ends x (List.mem_cons_of_mem _ hx)) htail
      exact ⟨by rw [he, hrest], hr⟩

end Expr

theorem LiteralKind.tag_append_inj {k k' : LiteralKind} {r r' : List Char}
    (h : k.tag.toList ++ '(' :: r = k'.tag.toList ++ '(' :: r') : k = k' ∧ r = r' := by
  have letters (k : LiteralKind) : ∀ c ∈ k.tag.toList, decide (c ≠ '(') = true := by
    have all : k.tag.toList.all (fun c => decide (c ≠ '(')) = true := by cases k <;> rfl
    exact List.all_eq_true.1 all
  obtain ⟨htag, hrest⟩ := run_append_inj (letters k) (letters k') (by decide) (by decide) h
  have hk : LiteralKind.ofTag? k.tag = LiteralKind.ofTag? k'.tag := by
    rw [String.toList_injective htag]
  rw [LiteralKind.ofTag?_tag, LiteralKind.ofTag?_tag] at hk
  exact ⟨Option.some.inj hk, (List.cons.inj hrest).2⟩

/-- No symbol holds a space, so the space after it ends it. -/
theorem BinaryOp.symbol_append_inj {op op' : BinaryOp} {r r' : List Char}
    (h : op.symbol.toList ++ ' ' :: r = op'.symbol.toList ++ ' ' :: r') : op = op' ∧ r = r' := by
  have solid (op : BinaryOp) : ∀ c ∈ op.symbol.toList, decide (c ≠ ' ') = true := by
    have all : op.symbol.toList.all (fun c => decide (c ≠ ' ')) = true := by cases op <;> rfl
    exact List.all_eq_true.1 all
  obtain ⟨hsymbol, hrest⟩ := run_append_inj (solid op) (solid op') (by decide) (by decide) h
  have hop : BinaryOp.ofSymbol? op.symbol = BinaryOp.ofSymbol? op'.symbol := by
    rw [String.toList_injective hsymbol]
  rw [BinaryOp.ofSymbol?_symbol, BinaryOp.ofSymbol?_symbol] at hop
  exact ⟨Option.some.inj hop, (List.cons.inj hrest).2⟩

/-- The symbols of operators on one operand are single characters. -/
theorem UnaryOp.symbol_append_inj {op op' : UnaryOp} {r r' : List Char}
    (h : op.symbol.toList ++ r = op'.symbol.toList ++ r') : op = op' ∧ r = r' := by
  have single (op : UnaryOp) : ∃ c, op.symbol.toList = [c] := by cases op <;> exact ⟨_, rfl⟩
  obtain ⟨c, hc⟩ := single op
  obtain ⟨c', hc'⟩ := single op'
  rw [hc, hc'] at h
  obtain ⟨hcc, hr⟩ := List.cons.inj h
  have hop : UnaryOp.ofSymbol? op.symbol = UnaryOp.ofSymbol? op'.symbol := by
    rw [String.toList_injective (hc.trans (hcc ▸ hc'.symm))]
  rw [UnaryOp.ofSymbol?_symbol, UnaryOp.ofSymbol?_symbol] at hop
  exact ⟨Option.some.inj hop, hr⟩

namespace Expr

theorem isNamePart_close : isNamePart ')' = false := by decide

theorem isNamePart_open : isNamePart '(' = false := by decide

/-- Keys are self-delimiting: a key can be told from any text that follows it. -/
theorem key_append_inj (e : Expr) : KeyEnds e := by
  induction e with
  | identifier name =>
    intro e' r r' h
    have hi := initial_eq_of_key_append h
    cases e' with
    | identifier name' =>
      simp only [key, Key.toList_identifier, List.cons_append, List.append_assoc,
        List.nil_append, List.cons.injEq, true_and] at h
      obtain ⟨hname, hr⟩ := writtenName_append_inj isNamePart_close h
      exact ⟨by rw [hname], hr⟩
    | _ => simp [initial] at hi
  | literal kind text =>
    intro e' r r' h
    have hi := initial_eq_of_key_append h
    cases e' with
    | literal kind' text' =>
      simp only [key, Key.toList_literal, List.cons_append, List.append_assoc,
        List.nil_append, List.cons.injEq, true_and] at h
      obtain ⟨hkind, htext⟩ := LiteralKind.tag_append_inj h
      obtain ⟨ht, hr⟩ := quoted_append_inj htext
      exact ⟨by rw [hkind, ht], (List.cons.inj hr).2⟩
    | _ => simp [initial] at hi
  | field target name ih =>
    intro e' r r' h
    have hi := initial_eq_of_key_append h
    cases e' with
    | field target' name' =>
      simp only [key, Key.toList_field, List.cons_append, List.append_assoc,
        List.nil_append, List.cons.injEq, true_and] at h
      obtain ⟨htarget, htail⟩ := ih h
      obtain ⟨hname, hr⟩ :=
        writtenName_append_inj isNamePart_close (List.cons.inj htail).2
      exact ⟨by rw [htarget, hname], hr⟩
    | _ => simp [initial] at hi
  | call target method args iht iha =>
    intro e' r r' h
    have hi := initial_eq_of_key_append h
    cases e' with
    | call target' method' args' =>
      simp only [key, Key.toList_call, keys_eq_map, List.cons_append, List.append_assoc,
        List.nil_append, List.cons.injEq, true_and] at h
      obtain ⟨htarget, htail⟩ := iht h
      obtain ⟨hmethod, hargs⟩ :=
        writtenName_append_inj isNamePart_open (List.cons.inj htail).2
      obtain ⟨hes, hr⟩ := arguments_append_inj (fun e he => iha e he) hargs
      exact ⟨by rw [htarget, hmethod, hes], (List.cons.inj hr).2⟩
    | _ => simp [initial] at hi
  | binary op left right ihl ihr =>
    intro e' r r' h
    have hi := initial_eq_of_key_append h
    cases e' with
    | binary op' left' right' =>
      simp only [key, Key.toList_binary, List.cons_append, List.append_assoc,
        List.nil_append, List.cons.injEq, true_and] at h
      obtain ⟨hleft, htail⟩ := ihl h
      obtain ⟨hop, hright⟩ := BinaryOp.symbol_append_inj (List.cons.inj htail).2
      obtain ⟨hright, hr⟩ := ihr hright
      exact ⟨by rw [hop, hleft, hright], (List.cons.inj hr).2⟩
    | _ => simp [initial] at hi
  | unary op operand ih =>
    intro e' r r' h
    have hi := initial_eq_of_key_append h
    cases e' with
    | unary op' operand' =>
      simp only [key, Key.toList_unary, List.cons_append, List.append_assoc,
        List.nil_append, List.cons.injEq, true_and] at h
      obtain ⟨hop, htail⟩ := UnaryOp.symbol_append_inj h
      obtain ⟨hoperand, hr⟩ := ih htail
      exact ⟨by rw [hop, hoperand], (List.cons.inj hr).2⟩
    | _ => simp [initial] at hi
  | choice condition thenBranch elseBranch ihc iht ihe =>
    intro e' r r' h
    have hi := initial_eq_of_key_append h
    cases e' with
    | choice condition' thenBranch' elseBranch' =>
      simp only [key, Key.toList_choice, List.cons_append, List.append_assoc,
        List.nil_append, List.cons.injEq, true_and] at h
      obtain ⟨hc, htail⟩ := ihc h
      simp only [List.cons.injEq, true_and] at htail
      obtain ⟨ht, htail⟩ := iht htail
      simp only [List.cons.injEq, true_and] at htail
      obtain ⟨he, hr⟩ := ihe htail
      exact ⟨by rw [hc, ht, he], (List.cons.inj hr).2⟩
    | _ => simp [initial] at hi

/-- Different expressions have different keys. -/
theorem key_injective {e e' : Expr} (h : e.key = e'.key) : e = e' := by
  have happend : e.key.toList ++ [] = e'.key.toList ++ [] := by rw [h]
  exact (key_append_inj e happend).1

end Expr

@[simp] theorem Key.identifier_inj {name name' : String} :
    Key.identifier name = Key.identifier name' ↔ name = name' := by
  constructor
  · intro h
    have key : (Expr.identifier name).key = (Expr.identifier name').key := h
    exact Expr.identifier.inj (Expr.key_injective key)
  · intro h
    rw [h]

end BindingGraph

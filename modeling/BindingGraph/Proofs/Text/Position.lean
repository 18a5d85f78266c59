import Mathlib.Data.String.Basic
import BindingGraph.Text.Lines
import BindingGraph.Text.Position

/-!
# Positions by bytes and by characters

The same place in a text is so many characters or so many bytes away from its start, and the
two counts agree only as long as every character before it is ASCII. No two characters have
the same position.

* `advance`: the position behind some characters;
* `before`: the characters that begin before a byte; `length_before_eq_iff`: when there are as
  many as bytes;
* `advance_take_ne`: no two places have one position;
* `Cut`, `cut_splitLines`: the lines of a text, each with the line feed that ends it.
-/

namespace BindingGraph.Text

variable {p : Nat × Nat} {chars : List Char} {bytes : Nat}

/-- The position behind some characters, from the one before them. -/
def advance (p : Nat × Nat) (chars : List Char) : Nat × Nat :=
  chars.foldl (fun p c => if c = '\n' then (p.1 + 1, 1) else (p.1, p.2 + 1)) p

theorem advance_append (p : Nat × Nat) (chars rest : List Char) :
    advance p (chars ++ rest) = advance (advance p chars) rest :=
  List.foldl_append

theorem advance_of_not_mem (h : '\n' ∉ chars) :
    advance p chars = (p.1, p.2 + chars.length) := by
  induction chars generalizing p with
  | nil => rfl
  | cons c rest ih =>
    have hc : c ≠ '\n' := fun eq => h (eq ▸ List.mem_cons_self)
    have hrest : '\n' ∉ rest := fun mem => h (List.mem_cons_of_mem c mem)
    show advance (if c = '\n' then _ else _) rest = _
    rw [if_neg hc, ih hrest, List.length_cons]
    simp only [Nat.add_assoc, Nat.add_comm 1]

theorem advance_lineFeed (h : '\n' ∉ chars) : advance p (chars ++ ['\n']) = (p.1 + 1, 1) := by
  rw [advance_append, advance_of_not_mem h]
  rfl

theorem fst_advance (p : Nat × Nat) (chars : List Char) :
    (advance p chars).1 = p.1 + chars.count '\n' := by
  induction chars generalizing p with
  | nil => rfl
  | cons c rest ih =>
    show (advance (if c = '\n' then _ else _) rest).1 = _
    rw [ih, List.count_cons]
    by_cases hc : c = '\n'
    · simp only [hc, if_true, beq_self_eq_true]
      omega
    · simp [hc]

/-- Characters move a position, and a step further in the column does not undo that. -/
theorem advance_ne (p : Nat × Nat) {chars : List Char} {further : Nat}
    (h : 0 < chars.length + further) :
    ((advance p chars).1, (advance p chars).2 + further) ≠ p := by
  intro eq
  obtain ⟨line, column⟩ := Prod.ext_iff.1 eq
  by_cases mem : '\n' ∈ chars
  · have := List.count_pos_iff.2 mem
    simp only [fst_advance] at line
    omega
  · simp only [advance_of_not_mem mem] at column
    omega

/-- Of two places in a text the later one has a position that the earlier one has not, and so
has what is a step further in the column. -/
theorem advance_take_ne (p : Nat × Nat) (further : Nat) {k n : Nat} (hk : k ≤ n)
    (hn : n ≤ chars.length) (h : k < n ∨ 0 < further) :
    ((advance p (chars.take n)).1, (advance p (chars.take n)).2 + further) ≠
      advance p (chars.take k) := by
  have split : chars.take n = chars.take k ++ (chars.take n).drop k := by
    have := (List.take_append_drop k (chars.take n)).symm
    rwa [List.take_take, Nat.min_eq_left hk] at this
  rw [split, advance_append]
  apply advance_ne
  rw [List.length_drop, List.length_take]
  omega

/-! ### The characters before a byte -/

/-- The characters of a text that begin before a byte. -/
def before : (bytes : Nat) → List Char → List Char
  | 0, _ => []
  | _, [] => []
  | bytes, c :: rest => c :: before (bytes - c.utf8Size) rest

theorem before_isPrefix (bytes : Nat) (chars : List Char) : before bytes chars <+: chars := by
  fun_induction before bytes chars with
  | case1 => exact List.nil_prefix
  | case2 => exact List.nil_prefix
  | case3 bytes c rest _ ih => exact List.prefix_cons_inj c |>.2 ih

/-- A position is the one behind the characters before it. -/
theorem position_eq_advance (text : String) (byte : Nat) :
    position text byte = advance (1, 1) (before byte text.toList) := by
  have behind (line column bytes : Nat) (chars : List Char) :
      positionFrom line column bytes chars = advance (line, column) (before bytes chars) := by
    fun_induction positionFrom line column bytes chars with
    | case1 line column bytes => cases bytes <;> rfl
    | case2 line column rest _ =>
      rw [before.eq_1]
      rfl
    | case3 line column bytes rest hbytes ih =>
      rw [before.eq_3 _ _ _ hbytes, ih]
      rfl
    | case4 line column bytes c rest hbytes hc ih =>
      rw [before.eq_3 _ _ _ hbytes, ih]
      show _ = advance (if c = '\n' then _ else _) _
      rw [if_neg hc]
  exact behind 1 1 byte text.toList

/-- The position of a character by the number of characters before it. -/
theorem position_eq_advance_take (text : String) (byte : Nat) :
    position text byte =
      advance (1, 1) (text.toList.take (before byte text.toList).length) := by
  rw [position_eq_advance, ← List.prefix_iff_eq_take.1 (before_isPrefix byte text.toList)]

theorem utf8Len_before (h : isBoundary bytes chars = true) :
    String.utf8Len (before bytes chars) = bytes := by
  fun_induction before bytes chars with
  | case1 => rfl
  | case2 bytes hbytes =>
    cases bytes with
    | zero => rfl
    | succ n => cases h
  | case3 bytes c rest hbytes ih =>
    rw [isBoundary.eq_3 _ _ _ hbytes, Bool.and_eq_true, decide_eq_true_eq] at h
    rw [String.utf8Len_cons, ih h.2]
    omega

theorem length_le_utf8Len (chars : List Char) : chars.length ≤ String.utf8Len chars := by
  induction chars with
  | nil => exact Nat.le_refl 0
  | cons c rest ih =>
    have := c.utf8Size_pos
    rw [List.length_cons, String.utf8Len_cons]
    omega

theorem utf8Len_eq_length_iff :
    String.utf8Len chars = chars.length ↔ ∀ c ∈ chars, c.toNat < 128 := by
  induction chars with
  | nil => simp
  | cons c rest ih =>
    have := c.utf8Size_pos
    have := length_le_utf8Len rest
    have ascii : c.utf8Size = 1 ↔ c.toNat < 128 := by
      rw [Char.utf8Size_eq_one_iff, UInt32.le_iff_toNat_le]
      exact Nat.lt_succ_iff.symm
    rw [List.forall_mem_cons, ← ih, ← ascii, List.length_cons, String.utf8Len_cons]
    omega

/-- There are as many characters before a byte as bytes only if all of them are ASCII. -/
theorem length_before_eq_iff (h : isBoundary bytes chars = true) :
    (before bytes chars).length = bytes ↔ ∀ c ∈ before bytes chars, c.toNat < 128 := by
  rw [← utf8Len_eq_length_iff, utf8Len_before h]
  exact eq_comm

/-- Not all characters begin before a byte that is in the text. -/
theorem length_before_lt (h : isBoundary bytes chars = true)
    (hbytes : bytes < String.utf8Len chars) :
    (before bytes chars).length < chars.length := by
  apply Nat.lt_of_le_of_ne (before_isPrefix bytes chars).length_le
  intro all
  have whole := (before_isPrefix bytes chars).eq_of_length all
  have size := utf8Len_before h
  rw [whole] at size
  exact Nat.ne_of_lt hbytes size.symm

theorem length_before_le (h : isBoundary bytes chars = true) :
    (before bytes chars).length ≤ bytes := by
  have := length_le_utf8Len (before bytes chars)
  rwa [utf8Len_before h] at this

/-! ### Lines -/

/-- Lines that are ended by line feeds; the last may go without. -/
inductive Cut : List (List Char) → Prop
  | nil : Cut []
  | last {line : List Char} : line ≠ [] → '\n' ∉ line → Cut [line]
  | cons {line : List Char} {rest : List (List Char)} :
    '\n' ∉ line → Cut rest → Cut ((line ++ ['\n']) :: rest)

/-- A text in which nothing else ends a line is cut at line feeds. -/
theorem cut_splitLines (feeds : ∀ c ∈ chars, isLineEnd c = true → c = '\n') :
    Cut (splitLines chars) := by
  fun_induction splitLines chars with
  | case1 => exact .nil
  | case2 rest ih => exact absurd (feeds '\r' List.mem_cons_self (by decide)) (by decide)
  | case3 c rest _ ends ih =>
    obtain rfl := feeds c List.mem_cons_self ends
    have cut := ih fun c hc => feeds c (List.mem_cons_of_mem _ hc)
    exact @Cut.cons [] _ List.not_mem_nil cut
  | case4 c rest _ ends _ ih =>
    have hc : c ≠ '\n' := fun eq => ends (eq ▸ by decide)
    exact .last (List.cons_ne_nil _ _) (by simpa using hc.symm)
  | case5 c rest _ ends line lines hlines ih =>
    have hc : c ≠ '\n' := fun eq => ends (eq ▸ by decide)
    have cut := ih fun c hc => feeds c (List.mem_cons_of_mem _ hc)
    rw [hlines] at cut
    cases cut with
    | last _ free => exact .last (List.cons_ne_nil _ _) (by simp [hc.symm, free])
    | @cons line _ free cut => exact @Cut.cons (c :: line) _ (by simp [hc.symm, free]) cut

end BindingGraph.Text

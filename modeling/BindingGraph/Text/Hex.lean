/-!
# Hexadecimal numbers

Lower case digits without leading zeros. Main statement, `ofHex?_hex`: reading the
digits back gives the number.
-/

namespace BindingGraph.Text

def hexDigit (n : Nat) : Char :=
  if n < 10 then Char.ofNat (48 + n) else Char.ofNat (87 + n)

/-- The number of a digit in either case. -/
def hexValue? (c : Char) : Option Nat :=
  if '0' ≤ c ∧ c ≤ '9' then some (c.toNat - 48)
  else if 'a' ≤ c ∧ c ≤ 'f' then some (c.toNat - 87)
  else if 'A' ≤ c ∧ c ≤ 'F' then some (c.toNat - 55)
  else none

/-- The digits of a number, highest first. -/
def hex (n : Nat) : List Char :=
  if n < 16 then [hexDigit n] else hex (n / 16) ++ [hexDigit (n % 16)]

/-- The digits of a number, filled up with zeros to a least count. -/
def hexPadded (count n : Nat) : List Char :=
  List.replicate (count - (hex n).length) '0' ++ hex n

/-- The number that a list of digits spells. -/
def ofHex? (digits : List Char) : Option Nat :=
  digits.foldlM (fun n c => (hexValue? c).map (16 * n + ·)) 0

theorem hexValue?_hexDigit {n : Nat} (h : n < 16) : hexValue? (hexDigit n) = some n := by
  have : ∀ m : Fin 16, hexValue? (hexDigit m) = some m.val := by decide
  exact this ⟨n, h⟩

theorem ofHex?_hex (n : Nat) : ofHex? (hex n) = some n := by
  induction n using hex.induct with
  | case1 n h =>
    rw [hex]
    simp [h, ofHex?, hexValue?_hexDigit h]
  | case2 n h ih =>
    rw [hex]
    simp only [h, ↓reduceIte]
    unfold ofHex? at ih ⊢
    rw [List.foldlM_append, ih]
    have hm : n % 16 < 16 := Nat.mod_lt _ (by decide)
    simp only [Option.bind_eq_bind, Option.bind_some, List.foldlM_cons, List.foldlM_nil,
      hexValue?_hexDigit hm, Option.map_some]
    simp only [Option.pure_def, Option.some.injEq]
    omega

theorem length_hex_le {count n : Nat} (hpos : 0 < count) (h : n < Nat.pow 16 count) :
    (hex n).length ≤ count := by
  induction count generalizing n with
  | zero => exact absurd hpos (Nat.lt_irrefl 0)
  | succ count ih =>
    rw [hex]
    split
    · simp
    · have hcount : 0 < count := by
        rcases Nat.eq_zero_or_pos count with rfl | hc
        · have hone : n < 16 := h
          omega
        · exact hc
      have hdiv : n / 16 < Nat.pow 16 count :=
        Nat.div_lt_of_lt_mul (Nat.mul_comm 16 _ ▸ h)
      have := ih hcount hdiv
      rw [List.length_append, List.length_singleton]
      omega

theorem length_hexPadded {count n : Nat} (hpos : 0 < count) (h : n < Nat.pow 16 count) :
    (hexPadded count n).length = count := by
  have := length_hex_le hpos h
  rw [hexPadded, List.length_append, List.length_replicate]
  omega

/-- Zeros in front do not change the number. -/
theorem ofHex?_hexPadded (count n : Nat) : ofHex? (hexPadded count n) = some n := by
  have zeros (k : Nat) (digits : List Char) :
      ofHex? (List.replicate k '0' ++ digits) = ofHex? digits := by
    induction k with
    | zero => rfl
    | succ k ih => rw [← ih]; rfl
  rw [hexPadded, zeros, ofHex?_hex]

/-- What holds of every digit holds of all that are written. -/
theorem forall_mem_hex {p : Char → Prop} (h : ∀ n < 16, p (hexDigit n)) (n : Nat) :
    ∀ c ∈ hex n, p c := by
  induction n using hex.induct with
  | case1 n hn =>
    rw [hex, if_pos hn]
    exact List.forall_mem_singleton.2 (h n hn)
  | case2 n hn ih =>
    rw [hex, if_neg hn]
    refine List.forall_mem_append.2 ⟨ih, List.forall_mem_singleton.2 ?_⟩
    exact h (n % 16) (Nat.mod_lt _ (by decide))

/-- No digit closes a brace. -/
theorem brace_not_mem_hex (n : Nat) : '\x7d' ∉ hex n := by
  have hdigit : ∀ m < 16, hexDigit m ≠ '\x7d' := by decide
  exact fun hmem => forall_mem_hex (p := (· ≠ '\x7d')) hdigit n _ hmem rfl

/-- Digits are no controls. -/
theorem not_control_of_mem_hexPadded {count n : Nat} {c : Char} (h : c ∈ hexPadded count n) :
    32 ≤ c.toNat := by
  have hdigit : ∀ m < 16, 32 ≤ (hexDigit m).toNat := by decide
  rcases List.mem_append.1 h with hzero | hhex
  · rw [List.eq_of_mem_replicate hzero]; decide
  · exact forall_mem_hex (p := (32 ≤ ·.toNat)) hdigit n c hhex

end BindingGraph.Text

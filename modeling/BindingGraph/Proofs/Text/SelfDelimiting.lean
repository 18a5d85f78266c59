import BindingGraph.Text.Name

/-!
# Texts that end by themselves

A way of writing is self-delimiting when what is written can be told from
whatever follows it. Escapes and quoted texts are; a written name is, before a
character that no plain name has.

* `readEscaped_escapeChar`: an escaped character can be read back;
* `quoted_append_inj`, `writtenName_append_inj`: quoted texts and written names.
-/

namespace BindingGraph.Text

/-- Two runs of characters with a property, each ended by one without it, are equal
when the texts that they begin are. -/
theorem run_append_inj {p : Char → Bool} {run run' rest rest' : List Char} {stop stop' : Char}
    (hrun : ∀ c ∈ run, p c = true) (hrun' : ∀ c ∈ run', p c = true)
    (hstop : p stop = false) (hstop' : p stop' = false)
    (h : run ++ stop :: rest = run' ++ stop' :: rest') :
    run = run' ∧ stop :: rest = stop' :: rest' := by
  induction run generalizing run' with
  | nil =>
    cases run' with
    | nil => exact ⟨rfl, h⟩
    | cons c _ =>
      have hc := hrun' c List.mem_cons_self
      have heq : stop = c := (List.cons.inj h).1
      rw [← heq, hstop] at hc
      cases hc
  | cons c tail ih =>
    cases run' with
    | nil =>
      have hc := hrun c List.mem_cons_self
      have heq : c = stop' := (List.cons.inj h).1
      rw [heq, hstop'] at hc
      cases hc
    | cons c' tail' =>
      obtain ⟨heq, htail⟩ := List.cons.inj h
      obtain ⟨hrest, hend⟩ := ih (fun x hx => hrun x (List.mem_cons_of_mem _ hx))
        (fun x hx => hrun' x (List.mem_cons_of_mem _ hx)) htail
      exact ⟨by rw [heq, hrest], hend⟩

/-- Reads one character back from its written form between quotes. A quote that
stands alone is no such form. -/
def readEscaped : List Char → Option (Char × List Char)
  | [] => none
  | '"' :: _ => none
  | '\\' :: '0' :: rest => some ('\x00', rest)
  | '\\' :: 't' :: rest => some ('\t', rest)
  | '\\' :: 'r' :: rest => some ('\r', rest)
  | '\\' :: 'n' :: rest => some ('\n', rest)
  | '\\' :: 'u' :: '\x7b' :: rest =>
    (ofHex? (rest.takeWhile (· ≠ '\x7d'))).map fun n =>
      (Char.ofNat n, (rest.dropWhile (· ≠ '\x7d')).tail)
  | '\\' :: c :: rest => some (c, rest)
  | c :: rest => some (c, rest)

theorem readEscaped_codePointEscape (c : Char) (rest : List Char) :
    readEscaped (codePointEscape c ++ rest) = some (c, rest) := by
  have digits : ∀ d ∈ hex c.toNat, (decide (d ≠ '\x7d')) = true := by
    intro d hd
    have hne : d ≠ '\x7d' := fun h => brace_not_mem_hex c.toNat (h ▸ hd)
    exact decide_eq_true hne
  have htake : ((hex c.toNat ++ '\x7d' :: rest).takeWhile (· ≠ '\x7d')) = hex c.toNat := by
    rw [List.takeWhile_append_of_pos digits]
    simp
  have hdrop : ((hex c.toNat ++ '\x7d' :: rest).dropWhile (· ≠ '\x7d')) = '\x7d' :: rest := by
    rw [List.dropWhile_append_of_pos digits]
    simp
  have hform : codePointEscape c ++ rest =
      '\\' :: 'u' :: '\x7b' :: (hex c.toNat ++ '\x7d' :: rest) := by
    simp [codePointEscape]
  rw [hform, readEscaped, htake, hdrop, ofHex?_hex]
  simp

/-- An escaped character can be read back, whatever follows it. -/
theorem readEscaped_escapeChar (c : Char) (rest : List Char) :
    readEscaped (escapeChar c ++ rest) = some (c, rest) := by
  unfold escapeChar
  split
  · rename_i h; subst h; rfl
  split
  · rename_i h; subst h; rfl
  split
  · rename_i h; subst h; rfl
  split
  · rename_i h; subst h; rfl
  split
  · rename_i h; subst h; rfl
  split
  · rename_i h; subst h; rfl
  split
  · rename_i backslash _
    simp [readEscaped, backslash]
  · exact readEscaped_codePointEscape c rest

theorem escapeChar_append_inj {c d : Char} {r s : List Char}
    (h : escapeChar c ++ r = escapeChar d ++ s) : c = d ∧ r = s := by
  have hread := congrArg readEscaped h
  rw [readEscaped_escapeChar, readEscaped_escapeChar] at hread
  exact Prod.mk.inj (Option.some.inj hread)

theorem escapeChar_append_ne_quote (c : Char) (r s : List Char) :
    escapeChar c ++ r ≠ '"' :: s := by
  intro h
  have hread := congrArg readEscaped h
  rw [readEscaped_escapeChar] at hread
  cases hread

theorem escaped_append_inj {t u r s : List Char}
    (h : t.flatMap escapeChar ++ '"' :: r = u.flatMap escapeChar ++ '"' :: s) : t = u ∧ r = s := by
  induction t generalizing u with
  | nil =>
    cases u with
    | nil => exact ⟨rfl, (List.cons.inj h).2⟩
    | cons d rest =>
      rw [List.flatMap_cons, List.append_assoc] at h
      exact absurd h.symm (escapeChar_append_ne_quote d _ _)
  | cons c rest ih =>
    cases u with
    | nil =>
      rw [List.flatMap_cons, List.append_assoc] at h
      exact absurd h (escapeChar_append_ne_quote c _ _)
    | cons d rest' =>
      simp only [List.flatMap_cons, List.append_assoc] at h
      obtain ⟨hc, hrest⟩ := escapeChar_append_inj h
      obtain ⟨ht, hr⟩ := ih hrest
      exact ⟨by rw [hc, ht], hr⟩

@[simp] theorem toList_quoted (text : String) :
    (quoted text).toList = '"' :: (text.toList.flatMap escapeChar ++ ['"']) := by
  simp [quoted]

/-- A quoted text ends at its last quote, whatever follows. -/
theorem quoted_append_inj {t u : String} {r s : List Char}
    (h : (quoted t).toList ++ r = (quoted u).toList ++ s) : t = u ∧ r = s := by
  simp only [toList_quoted, List.cons_append, List.append_assoc] at h
  obtain ⟨htext, hrest⟩ := escaped_append_inj (List.cons.inj h).2
  exact ⟨String.toList_injective htext, hrest⟩

theorem isNameStart_quote : isNameStart '"' = false := by decide

/-- A plain name begins as names do and has only characters of names. -/
theorem start_of_isPlainName {name : String} (h : isPlainName name = true) :
    ∃ c rest, name.toList = c :: rest ∧ isNameStart c = true ∧
      ∀ x ∈ rest, isNamePart x = true := by
  unfold isPlainName at h
  cases hlist : name.toList with
  | nil => simp [hlist] at h
  | cons c rest =>
    rw [hlist] at h
    obtain ⟨hstart, hrest⟩ := Bool.and_eq_true_iff.1 h
    exact ⟨c, rest, rfl, hstart, List.all_eq_true.1 hrest⟩

theorem isNamePart_of_isPlainName {name : String} (h : isPlainName name = true) :
    ∀ c ∈ name.toList, isNamePart c = true := by
  obtain ⟨c, rest, hlist, hstart, hrest⟩ := start_of_isPlainName h
  intro x hx
  rw [hlist] at hx
  rcases List.mem_cons.1 hx with rfl | hx
  · simp [isNamePart, hstart]
  · exact hrest x hx

/-- A plain name and a quoted one begin with different characters. -/
theorem plain_append_ne_quoted {name other : String} (h : isPlainName name = true)
    (r s : List Char) : name.toList ++ r ≠ (quoted other).toList ++ s := by
  obtain ⟨c, rest, hlist, hstart, _⟩ := start_of_isPlainName h
  intro heq
  rw [hlist, toList_quoted] at heq
  have hc : c = '"' := (List.cons.inj heq).1
  rw [hc, isNameStart_quote] at hstart
  cases hstart

/-- A written name ends before a character that no plain name has. -/
theorem writtenName_append_inj {name other : String} {stop : Char} {r s : List Char}
    (hstop : isNamePart stop = false)
    (h : (writtenName name).toList ++ stop :: r = (writtenName other).toList ++ stop :: s) :
    name = other ∧ r = s := by
  unfold writtenName at h
  cases hn : isPlainName name <;> cases ho : isPlainName other <;>
    simp only [hn, ho, Bool.false_eq_true, ↓reduceIte] at h
  · obtain ⟨htext, hrest⟩ := quoted_append_inj h
    exact ⟨htext, (List.cons.inj hrest).2⟩
  · exact absurd h.symm (plain_append_ne_quoted ho _ _)
  · exact absurd h (plain_append_ne_quoted hn _ _)
  · obtain ⟨htext, hrest⟩ := run_append_inj (isNamePart_of_isPlainName hn)
      (isNamePart_of_isPlainName ho) hstop hstop h
    exact ⟨String.toList_injective htext, (List.cons.inj hrest).2⟩

end BindingGraph.Text

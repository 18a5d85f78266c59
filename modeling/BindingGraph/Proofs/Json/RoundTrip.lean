import BindingGraph.Json.Printer
import BindingGraph.Json.Reader

/-!
# Written values are read back

A value is legible when its strings have a text and its numbers are spelled in a given
way. What is proved of a written form is stated with what follows it, so that it holds
inside other values too.

* `read?_compact`, `read?_pretty`: a legible value is read back from its compact form, and from
  the form over several lines;
* `oneLine_compact`: the compact form is one line.
-/

namespace BindingGraph.Json

open Decimal

/-- A spelling that is read as one number. -/
def IsNumeral (spelling : String) : Prop :=
  (NumberParts.of spelling.toList).wellFormed = true ∧ ∀ c ∈ spelling.toList, isNumberPart c = true

/-- Values in which every string has a text and every number is spelled in a given way. -/
inductive Legible (numeral : String → Prop) : Json → Prop
  | null : Legible numeral null
  | bool (b : Bool) : Legible numeral (bool b)
  | number {spelling : String} (h : numeral spelling) : Legible numeral (number spelling)
  | string (s : String) : Legible numeral (string s)
  | array {items : List Json} (h : ∀ v ∈ items, Legible numeral v) : Legible numeral (array items)
  | record {members : List (String × Json)} (h : ∀ p ∈ members, Legible numeral p.2) :
    Legible numeral (record members)

theorem Legible.mono {numeral numeral' : String → Prop} {v : Json} (h : Legible numeral v)
    (himp : ∀ s, numeral s → numeral' s) : Legible numeral' v := by
  induction h with
  | null => exact .null
  | bool b => exact .bool b
  | number h => exact .number (himp _ h)
  | string s => exact .string s
  | array _ ih => exact .array ih
  | record _ ih => exact .record ih

attribute [simp] Legible.string

section
variable {numeral : String → Prop} {α : Type} {encode : α → Json}

@[simp] theorem legible_ofOption (h : ∀ a, Legible numeral (encode a)) (a : Option α) :
    Legible numeral (ofOption encode a) := by
  cases a with
  | none => exact .null
  | some a => exact h a

@[simp] theorem legible_array_map (h : ∀ a, Legible numeral (encode a)) (l : List α) :
    Legible numeral (array (l.map encode)) :=
  .array (List.forall_mem_map.2 fun a _ => h a)

@[simp] theorem legible_strings (l : List String) : Legible numeral (strings l) :=
  legible_array_map .string l

end

/-! ### Whole numbers -/

theorem isDigit_of_mem_toDigits {n : Nat} {c : Char} (h : c ∈ Nat.toDigits 10 n) :
    isDigit c = true := by
  have hdigit := Nat.isDigit_of_mem_toDigits (by decide) (by decide) h
  simpa [isDigit, Char.isDigit, Char.le_def] using hdigit

theorem head?_toDigits_ne_zero {n : Nat} (h : 0 < n) : (Nat.toDigits 10 n).head? ≠ some '0' := by
  induction n using Nat.strongRecOn with
  | ind n ih =>
    by_cases hsmall : n < 10
    · have hdigit : ∀ m : Fin 10, 0 < m.val → m.val.digitChar ≠ '0' := by decide
      rw [Nat.toDigits_of_lt_base hsmall, List.head?_cons]
      exact fun hzero => hdigit ⟨n, hsmall⟩ h (Option.some.inj hzero)
    · have hge : 10 ≤ n := Nat.le_of_not_lt hsmall
      have hrest := ih (n / 10) (Nat.div_lt_self h (by decide)) (Nat.div_pos hge (by decide))
      have hne : Nat.toDigits 10 (n / 10) ≠ [] := Nat.toDigits_ne_nil
      rw [Nat.toDigits_of_base_le (by decide) hge, List.head?_append,
        Option.or_of_isSome (List.isSome_head?.2 hne)]
      exact hrest

/-- The parts of digits alone. -/
theorem of_digits {digits : List Char} (h : ∀ c ∈ digits, isDigit c = true) :
    NumberParts.of digits = ⟨false, digits, none, none⟩ := by
  have hsign : digits.head? ≠ some '-' := by
    intro hhead
    exact absurd (h '-' (List.mem_of_mem_head? hhead)) (by decide)
  have htake : digits.takeWhile isDigit = digits := by
    rw [← List.append_nil digits, List.takeWhile_append_of_pos h]; rfl
  have hdrop : digits.dropWhile isDigit = [] := by
    rw [← List.append_nil digits, List.dropWhile_append_of_pos h]; rfl
  simp [NumberParts.of, hsign, htake, hdrop]

/-- Whole numbers are spelled without a zero in front. -/
theorem isNumeral_toString (n : Nat) : IsNumeral (toString n) := by
  have hdigits : ∀ c ∈ Nat.toDigits 10 n, isDigit c = true := fun c => isDigit_of_mem_toDigits
  refine ⟨?_, fun c hc => ?_⟩
  · rw [Nat.toString_eq_repr, Nat.toList_repr, of_digits hdigits]
    rcases Nat.eq_zero_or_pos n with rfl | hpos
    · decide
    · have hne : Nat.toDigits 10 n ≠ [] := Nat.toDigits_ne_nil
      simp [NumberParts.wellFormed, hne, head?_toDigits_ne_zero hpos]
  · rw [Nat.toString_eq_repr, Nat.toList_repr] at hc
    simp [isNumberPart, hdigits c hc]

@[simp] theorem legible_nat (n : Nat) : Legible IsNumeral (nat n) := .number (isNumeral_toString n)

/-! ### Strings -/

/-- A character that is written with the number of its code point. -/
theorem scanString_hexPadded {n : Nat} (h : n < 32) {rest tail : List Char} {units : List Nat}
    (hrest : scanString rest = some (units, tail)) :
    scanString ('\\' :: 'u' :: Text.hexPadded 4 n ++ rest) = some (n :: units, tail) := by
  have hread := Text.ofHex?_hexPadded 4 n
  have hlen : (Text.hexPadded 4 n).length = 4 :=
    Text.length_hexPadded (by decide) (Nat.lt_trans h (by decide))
  match Text.hexPadded 4 n, hlen, hread with
  | [a, b, c, d], _, hread =>
    simp only [List.cons_append, List.nil_append]
    rw [scanString, hread, hrest]

/-- An escaped character is read back, whatever follows it. -/
theorem scanString_escapeChar (c : Char) {rest tail : List Char} {units : List Nat}
    (hrest : scanString rest = some (units, tail)) :
    scanString (escapeChar c ++ rest) = some (c.toNat :: units, tail) := by
  unfold escapeChar
  iterate 7
    split
    · next h => subst h; simp [scanString, escapedChar?, hrest]
  split
  · next h => exact scanString_hexPadded h hrest
  · next hslash _ _ _ _ _ hcontrol => simp [scanString, hslash, hcontrol, hrest]

/-- A written string ends at its closing quote. -/
theorem scanString_escaped (s rest : List Char) :
    scanString (s.flatMap escapeChar ++ '"' :: rest) = some (s.map Char.toNat, rest) := by
  induction s with
  | nil => rw [List.flatMap_nil, List.nil_append, scanString, List.map_nil]
  | cons c s ih =>
    rw [List.flatMap_cons, List.append_assoc, List.map_cons]
    exact scanString_escapeChar c ih

/-- No character is a half of a surrogate pair. -/
theorem not_half (c : Char) : isHighHalf c.toNat = false ∧ isLowHalf c.toNat = false := by
  have hvalid := c.valid
  simp only [isHighHalf, isLowHalf, Bool.and_eq_false_iff, decide_eq_false_iff_not, Char.toNat]
  have : c.val.toNat < 0xD800 ∨ 0xDFFF < c.val.toNat ∧ c.val.toNat < 0x110000 := hvalid
  omega

/-- The code points of characters spell these characters. -/
theorem joinHalves_map_toNat (s : List Char) : joinHalves (s.map Char.toNat) = some s := by
  induction s with
  | nil => rfl
  | cons c s ih =>
    obtain ⟨hhigh, hlow⟩ := not_half c
    cases s with
    | nil => simp [joinHalves, hhigh, hlow]
    | cons d s =>
      rw [List.map_cons] at ih ⊢
      rw [List.map_cons, joinHalves]
      simp [hhigh, hlow, ih]

/-! ### Tokens -/

/-- What may stand after a number without continuing it. -/
def Ends (rest : List Char) : Prop := ∀ c ∈ rest.head?, isNumberPart c = false

/-- A text that is cut into given tokens wherever it stands. -/
def Spells (text : String) (ts : List Token) : Prop :=
  ∀ done rest, Ends rest →
    scanTokens done (text.toList ++ rest) = scanTokens (ts.reverse ++ done) rest

theorem scanTokens_cons {c : Char} {rest tail : List Char} {t : Token} (done : List Token)
    (hspace : isSpace c = false) (h : scanToken c rest = some (t, tail)) :
    scanTokens done (c :: rest) = scanTokens (t :: done) tail := by
  rw [scanTokens]
  simp only [hspace, Bool.false_eq_true, ↓reduceIte]
  split
  · next hnone => rw [h] at hnone; cases hnone
  · next hsome => rw [h] at hsome; cases hsome; rfl

def Blank (text : String) : Prop := ∀ c ∈ text.toList, isSpace c = true

instance (s : String) : Decidable (Blank s) := List.decidableBAll _ s.toList

theorem blank_empty : Blank "" := by decide

theorem blank_newLine (level : Nat) : Blank (newLine level) := by
  intro c hc
  rw [newLine, String.toList_ofList] at hc
  rcases List.mem_cons.1 hc with rfl | hc
  · decide
  · rw [(List.mem_replicate.1 hc).2]
    decide

theorem not_isNumberPart_of_isSpace {c : Char} (h : isSpace c = true) : isNumberPart c = false := by
  simp only [isSpace, Bool.or_eq_true, decide_eq_true_eq] at h
  rcases h with ((rfl | rfl) | rfl) | rfl <;> decide

theorem Blank.ends {text : String} (h : Blank text) {rest : List Char} (hrest : Ends rest) :
    Ends (text.toList ++ rest) := by
  unfold Blank at h
  generalize text.toList = cs at h ⊢
  cases cs with
  | nil => exact hrest
  | cons c cs =>
    intro d hd
    cases hd
    exact not_isNumberPart_of_isSpace (h c List.mem_cons_self)

theorem Blank.scanTokens {text : String} (h : Blank text) (done : List Token) (rest : List Char) :
    scanTokens done (text.toList ++ rest) = scanTokens done rest := by
  unfold Blank at h
  generalize text.toList = cs at h ⊢
  induction cs with
  | nil => rfl
  | cons c cs ih =>
    rw [List.cons_append, Json.scanTokens, if_pos (h c List.mem_cons_self)]
    exact ih fun d hd => h d (List.mem_cons_of_mem _ hd)

/-- A text that is cut into one token whatever stands around it. The blanks beside a sign belong
to it. -/
structure IsSign (text : String) (t : Token) : Prop where
  ends : ∀ rest, Ends (text.toList ++ rest)
  scan : ∀ done rest, scanTokens done (text.toList ++ rest) = scanTokens (t :: done) rest

theorem isSign_of_scanToken {text : String} {t : Token} (c : Char) (htext : text.toList = [c])
    (hspace : isSpace c = false) (hpart : isNumberPart c = false)
    (h : ∀ rest, scanToken c rest = some (t, rest)) : IsSign text t where
  ends rest := by
    rw [htext]
    intro d hd
    cases hd
    exact hpart
  scan done rest := by
    rw [htext]
    exact scanTokens_cons done hspace (h rest)

theorem isSign_comma : IsSign "," .comma :=
  isSign_of_scanToken ',' (by simp) (by decide) (by decide) fun _ => rfl

theorem isSign_colon : IsSign ":" .colon :=
  isSign_of_scanToken ':' (by simp) (by decide) (by decide) fun _ => rfl

theorem isSign_openBracket : IsSign "[" .openBracket :=
  isSign_of_scanToken '[' (by simp) (by decide) (by decide) fun _ => rfl

theorem isSign_closeBracket : IsSign "]" .closeBracket :=
  isSign_of_scanToken ']' (by simp) (by decide) (by decide) fun _ => rfl

theorem isSign_openBrace : IsSign "\x7b" .openBrace :=
  isSign_of_scanToken '\x7b' (by simp) (by decide) (by decide) fun _ => rfl

theorem isSign_closeBrace : IsSign "\x7d" .closeBrace :=
  isSign_of_scanToken '\x7d' (by simp) (by decide) (by decide) fun _ => rfl

theorem IsSign.append_blank {text s : String} {t : Token} (h : IsSign text t) (hs : Blank s) :
    IsSign (text ++ s) t where
  ends rest := by
    rw [String.toList_append, List.append_assoc]
    exact h.ends _
  scan done rest := by rw [String.toList_append, List.append_assoc, h.scan, hs.scanTokens]

theorem IsSign.blank_append {text s : String} {t : Token} (h : IsSign text t) (hs : Blank s) :
    IsSign (s ++ text) t where
  ends rest := by
    rw [String.toList_append, List.append_assoc]
    exact hs.ends (h.ends rest)
  scan done rest := by rw [String.toList_append, List.append_assoc, hs.scanTokens, h.scan]

theorem spells_empty : Spells "" [] := fun _ _ _ => by simp

/-- A sign ends whatever stands before it. -/
theorem Spells.append_sign {text text' s : String} {t : Token} {ts ts' : List Token}
    (h : Spells text ts) (hsign : IsSign s t) (h' : Spells text' ts') :
    Spells (text ++ s ++ text') (ts ++ t :: ts') := by
  intro done rest hrest
  rw [String.append_assoc, String.toList_append, List.append_assoc, String.toList_append,
    List.append_assoc, h done _ (hsign.ends _), hsign.scan, h' _ rest hrest]
  simp

theorem Spells.enclose {text s s' : String} {t t' : Token} {ts : List Token} (h : Spells text ts)
    (hsign : IsSign s t) (hsign' : IsSign s' t') :
    Spells (s ++ text ++ s') (t :: (ts ++ [t'])) := by
  simpa using (spells_empty.append_sign hsign h).append_sign hsign' spells_empty

theorem spells_of_scanToken {text : String} (c : Char) (cs : List Char) {t : Token}
    (htext : text.toList = c :: cs) (hspace : isSpace c = false)
    (h : ∀ rest, Ends rest → scanToken c (cs ++ rest) = some (t, rest)) : Spells text [t] := by
  intro done rest hrest
  rw [htext]
  exact scanTokens_cons done hspace (h rest hrest)

theorem spells_quote (s : String) : Spells (quote s) [.scalar (string s)] := by
  have hform : (quote s).toList = '"' :: (s.toList.flatMap escapeChar ++ ['"']) := by simp [quote]
  refine spells_of_scanToken _ _ hform (by decide) fun rest _ => ?_
  rw [List.append_assoc, List.singleton_append, scanToken, scanString_escaped]
  simp only [Option.map_some, joinHalves_map_toNat, String.ofList_toList, string]

/-- A number begins with a digit or a sign. -/
theorem start_of_isNumeral {spelling : String} (h : IsNumeral spelling) :
    ∃ c rest, spelling.toList = c :: rest ∧ (isDigit c = true ∨ c = '-') := by
  cases hlist : spelling.toList with
  | nil =>
    have hwell := h.1
    rw [hlist] at hwell
    exact absurd hwell (by decide)
  | cons c rest =>
    refine ⟨c, rest, rfl, ?_⟩
    by_cases hdigit : isDigit c = true
    · exact .inl hdigit
    by_cases hminus : c = '-'
    · exact .inr hminus
    have hwell := h.1
    simp [hlist, NumberParts.of, NumberParts.wellFormed, hdigit, hminus] at hwell

theorem scanToken_number {c : Char} {cs rest : List Char} (hstart : isDigit c = true ∨ c = '-')
    (hwell : (NumberParts.of (c :: cs)).wellFormed = true)
    (hparts : ∀ x ∈ cs, isNumberPart x = true) (hrest : Ends rest) :
    scanToken c (cs ++ rest) = some (.scalar (number (String.ofList (c :: cs))), rest) := by
  have htake : (cs ++ rest).takeWhile isNumberPart = cs := by
    rw [List.takeWhile_append_of_pos hparts]
    cases rest with
    | nil => simp
    | cons d rest => simp [hrest d rfl]
  have hdrop : (cs ++ rest).dropWhile isNumberPart = rest := by
    rw [List.dropWhile_append_of_pos hparts]
    cases rest with
    | nil => rfl
    | cons d rest => simp [hrest d rfl]
  have hstart' : (isDigit c || decide (c = '-')) = true := by simpa using hstart
  unfold scanToken
  split
  -- signs, words and quotes begin otherwise
  case h_11 => simp only [hstart', htake, hdrop, hwell, ↓reduceIte]
  all_goals exact absurd hstart (by decide)

theorem spells_number {spelling : String} (h : IsNumeral spelling) :
    Spells spelling [.scalar (number spelling)] := by
  obtain ⟨c, cs, hlist, hstart⟩ := start_of_isNumeral h
  obtain ⟨hwell, hparts⟩ := h
  rw [hlist] at hwell hparts
  have hspelling : String.ofList (c :: cs) = spelling := by rw [← hlist, String.ofList_toList]
  have hspace : isSpace c = false := by
    refine Bool.eq_false_iff.2 fun hspace => ?_
    simp only [isSpace, Bool.or_eq_true, decide_eq_true_eq] at hspace
    rcases hspace with ((rfl | rfl) | rfl) | rfl <;> exact absurd hstart (by decide)
  refine spells_of_scanToken _ _ hlist hspace fun rest hrest => ?_
  rw [scanToken_number hstart hwell (fun x hx => hparts x (List.mem_cons_of_mem _ hx)) hrest,
    hspelling]

/-! ### Values -/

/-- Tokens that lead the machine from one state to another. -/
def Leads (r : Reading) (ts : List Token) (r' : Reading) : Prop :=
  ts.foldlM Reading.step r = some r'

theorem Leads.nil (r : Reading) : Leads r [] r := rfl

theorem Leads.cons {r r' r'' : Reading} {t : Token} {ts : List Token}
    (hstep : r.step t = some r') (h : Leads r' ts r'') : Leads r (t :: ts) r'' := by
  unfold Leads
  rw [List.foldlM_cons, hstep]
  exact h

theorem Leads.append {r r' r'' : Reading} {ts ts' : List Token} (h : Leads r ts r')
    (h' : Leads r' ts' r'') : Leads r (ts ++ ts') r'' := by
  unfold Leads
  rw [List.foldlM_append, h]
  exact h'

/-- A text that spells a value, inside whatever is open. -/
def Writes (text : String) (v : Json) : Prop :=
  ∃ ts, Spells text ts ∧ ∀ stack, Leads (.value stack) ts (.after stack v)

theorem writes_scalar {text : String} {v : Json} (h : Spells text [.scalar v]) : Writes text v :=
  ⟨_, h, fun _ => .cons rfl (.nil _)⟩

theorem writes_bool (b : Bool) : Writes (bool b).compact (bool b) := by
  refine writes_scalar ?_
  cases b with
  | false =>
    exact spells_of_scanToken 'f' ['a', 'l', 's', 'e'] (by simp [compact])
      (by decide) fun _ _ => rfl
  | true =>
    exact spells_of_scanToken 't' ['r', 'u', 'e'] (by simp [compact])
      (by decide) fun _ _ => rfl

theorem writes_null : Writes null.compact null :=
  writes_scalar (spells_of_scanToken 'n' ['u', 'l', 'l'] (by simp [compact])
    (by decide) fun _ _ => rfl)

/-- The first item of an array is read as any other. -/
theorem Leads.first {ts : List Token} {v : Json} {stack : List Frame}
    (h : Leads (.value (.items [] :: stack)) ts (.after stack v)) :
    Leads (.firstItem stack) ts (.after stack v) := by
  cases ts with
  | nil => simp [Leads] at h
  | cons t ts =>
    cases t with
    | closeBracket => simp [Leads, Reading.step, Reading.begin] at h
    | _ => exact h

section
variable {opening closing comma colon : String} {render : Json → String}

/-- The items of an array, after those that were read. -/
theorem writes_items (hcomma : IsSign comma .comma) {v : Json} {items : List Json}
    (h : ∀ w ∈ v :: items, Writes (render w) w) :
    ∃ ts, Spells (comma.intercalate ((v :: items).map render)) ts ∧
      ∀ stack done, Leads (.value (.items done :: stack)) (ts ++ [.closeBracket])
        (.after stack (array (done.reverse ++ v :: items))) := by
  induction items generalizing v with
  | nil =>
    obtain ⟨ts, hspells, hleads⟩ := h v List.mem_cons_self
    refine ⟨ts, by simpa using hspells, fun stack done => ?_⟩
    exact (hleads _).append (.cons (by simp [Reading.step, Reading.continue?]) (.nil _))
  | cons w items ih =>
    obtain ⟨ts, hspells, hleads⟩ := h v List.mem_cons_self
    obtain ⟨ts', hspells', hleads'⟩ := ih fun x hx => h x (List.mem_cons_of_mem _ hx)
    refine ⟨ts ++ .comma :: ts', ?_, fun stack done => ?_⟩
    · rw [List.map_cons, List.map_cons, String.intercalate_cons_cons]
      exact hspells.append_sign hcomma hspells'
    · have hrest := hleads' stack (v :: done)
      rw [List.append_assoc]
      rw [List.reverse_cons, List.append_assoc] at hrest
      exact (hleads _).append (.cons rfl hrest)

theorem writes_array (hopening : IsSign opening .openBracket)
    (hclosing : IsSign closing .closeBracket) (hcomma : IsSign comma .comma) {items : List Json}
    (h : ∀ w ∈ items, Writes (render w) w) :
    Writes (opening ++ comma.intercalate (items.map render) ++ closing) (array items) := by
  cases items with
  | nil =>
    exact ⟨_, spells_empty.enclose hopening hclosing, fun _ => .cons rfl (.cons rfl (.nil _))⟩
  | cons v items =>
    obtain ⟨ts, hspells, hleads⟩ := writes_items hcomma h
    exact ⟨_, hspells.enclose hopening hclosing, fun stack => .cons rfl (hleads stack []).first⟩

def member (colon : String) (render : Json → String) (p : String × Json) : String :=
  quote p.1 ++ colon ++ render p.2

/-- The members of an object, after those that were read. -/
theorem writes_members (hcomma : IsSign comma .comma) (hcolon : IsSign colon .colon)
    {p : String × Json} {members : List (String × Json)}
    (h : ∀ q ∈ p :: members, Writes (render q.2) q.2) :
    ∃ ts, Spells (comma.intercalate ((p :: members).map (member colon render)))
        (.scalar (string p.1) :: ts) ∧
      ∀ stack done, Leads (.colon stack done (some p.1)) (ts ++ [.closeBrace])
        (.after stack (object (done.reverse ++ (p :: members).map fun q => (some q.1, q.2)))) := by
  induction members generalizing p with
  | nil =>
    obtain ⟨ts, hspells, hleads⟩ := h p List.mem_cons_self
    refine ⟨.colon :: ts, ?_, fun stack done => ?_⟩
    · rw [List.map_singleton, String.intercalate_singleton]
      exact (spells_quote p.1).append_sign hcolon hspells
    · exact .cons rfl ((hleads _).append
        (.cons (by simp [Reading.step, Reading.continue?]) (.nil _)))
  | cons q members ih =>
    obtain ⟨ts, hspells, hleads⟩ := h p List.mem_cons_self
    obtain ⟨ts', hspells', hleads'⟩ := ih fun x hx => h x (List.mem_cons_of_mem _ hx)
    refine ⟨.colon :: ts ++ .comma :: .scalar (string q.1) :: ts', ?_, fun stack done => ?_⟩
    · rw [List.map_cons, List.map_cons, String.intercalate_cons_cons]
      exact ((spells_quote p.1).append_sign hcolon hspells).append_sign hcomma hspells'
    · have hrest := hleads' stack ((some p.1, p.2) :: done)
      rw [List.cons_append, List.cons_append, List.append_assoc]
      rw [List.reverse_cons, List.append_assoc] at hrest
      exact .cons rfl ((hleads _).append (.cons rfl (.cons rfl hrest)))

theorem writes_record (hopening : IsSign opening .openBrace) (hclosing : IsSign closing .closeBrace)
    (hcomma : IsSign comma .comma) (hcolon : IsSign colon .colon)
    {members : List (String × Json)} (h : ∀ p ∈ members, Writes (render p.2) p.2) :
    Writes (opening ++ comma.intercalate (members.map (member colon render)) ++ closing)
      (record members) := by
  cases members with
  | nil =>
    exact ⟨_, spells_empty.enclose hopening hclosing, fun _ => .cons rfl (.cons rfl (.nil _))⟩
  | cons p members =>
    obtain ⟨ts, hspells, hleads⟩ := writes_members hcomma hcolon h
    exact ⟨_, hspells.enclose hopening hclosing, fun stack =>
      .cons rfl (.cons rfl (hleads stack []))⟩

end

theorem compactItems_eq_map (items : List Json) : compactItems items = items.map compact := by
  induction items with
  | nil => rfl
  | cons v items ih => rw [compactItems, ih, List.map_cons]

theorem compactMembers_eq_map (members : List (String × Json)) :
    compactMembers (members.map fun p => (some p.1, p.2)) = members.map (member ":" compact) := by
  induction members with
  | nil => rfl
  | cons p members ih => rw [List.map_cons, compactMembers, ih, List.map_cons]; rfl

theorem writes_compact {v : Json} (h : Legible IsNumeral v) : Writes v.compact v := by
  induction h with
  | null => exact writes_null
  | bool b => exact writes_bool b
  | number h => exact writes_scalar (spells_number h)
  | string s => exact writes_scalar (spells_quote s)
  | array _ ih =>
    rw [compact, compactItems_eq_map]
    exact writes_array isSign_openBracket isSign_closeBracket isSign_comma ih
  | record _ ih =>
    rw [record, compact, compactMembers_eq_map]
    exact writes_record isSign_openBrace isSign_closeBrace isSign_comma isSign_colon ih

/-! ### Values over several lines -/

theorem prettyItems_eq_map (level : Nat) (items : List Json) :
    prettyItems level items = items.map (prettyAt level) := by
  induction items with
  | nil => rfl
  | cons v items ih => rw [prettyItems, ih, List.map_cons]

theorem prettyMembers_eq_map (level : Nat) (members : List (String × Json)) :
    prettyMembers level (members.map fun p => (some p.1, p.2)) =
      members.map (member ": " (prettyAt level)) := by
  induction members with
  | nil => rfl
  | cons p members ih => rw [List.map_cons, prettyMembers, ih, List.map_cons]; rfl

/-- Lines of their own only add blanks beside the signs. -/
theorem bracketed_eq (openSign closeSign : String) (level : Nat) (pieces : List String) :
    ∃ inner outer comma : String, Blank inner ∧ Blank outer ∧ Blank comma ∧
      bracketed openSign closeSign level pieces =
        openSign ++ inner ++ ("," ++ comma).intercalate pieces ++ (outer ++ closeSign) := by
  cases pieces with
  | nil => exact ⟨"", "", "", blank_empty, blank_empty, blank_empty, by simp [bracketed]⟩
  | cons p pieces =>
    refine ⟨newLine (level + 1), newLine level, newLine (level + 1), blank_newLine _,
      blank_newLine _, blank_newLine _, ?_⟩
    simp [bracketed, String.append_assoc]

theorem isSign_colonBlank : IsSign ": " .colon :=
  isSign_colon.append_blank (s := " ") (by decide)

theorem writes_prettyAt {v : Json} (h : Legible IsNumeral v) (level : Nat) :
    Writes (v.prettyAt level) v := by
  induction h generalizing level with
  | null => exact writes_null
  | bool b => exact writes_bool b
  | number h => exact writes_scalar (spells_number h)
  | string s => exact writes_scalar (spells_quote s)
  | @array items _ ih =>
    obtain ⟨inner, outer, comma, hinner, houter, hcomma, hform⟩ :=
      bracketed_eq "[" "]" level (items.map (prettyAt (level + 1)))
    rw [prettyAt, prettyItems_eq_map, hform]
    exact writes_array (isSign_openBracket.append_blank hinner)
      (isSign_closeBracket.blank_append houter) (isSign_comma.append_blank hcomma)
      fun w hw => ih w hw (level + 1)
  | @record members _ ih =>
    obtain ⟨inner, outer, comma, hinner, houter, hcomma, hform⟩ :=
      bracketed_eq "\x7b" "\x7d" level (members.map (member ": " (prettyAt (level + 1))))
    rw [record, prettyAt, prettyMembers_eq_map, hform]
    exact writes_record (isSign_openBrace.append_blank hinner)
      (isSign_closeBrace.blank_append houter) (isSign_comma.append_blank hcomma) isSign_colonBlank
      fun p hp => ih p hp (level + 1)

/-! ### Whole texts -/

theorem read?_of_writes {text s : String} {v : Json} (h : Writes text v) (hs : Blank s) :
    read? (text ++ s) = some v := by
  obtain ⟨ts, hspells, hleads⟩ := h
  have hempty : Ends [] := fun c hc => by cases hc
  have htokens : tokens? (text ++ s) = some ts := by
    have hscan := hspells [] (s.toList ++ []) (hs.ends hempty)
    rw [hs.scanTokens] at hscan
    rw [tokens?, String.toList_append, ← List.append_nil s.toList, hscan, List.append_nil,
      scanTokens, List.reverse_reverse]
  rw [read?, htokens, Option.bind_some, ofTokens?, hleads []]
  rfl

/-- A legible value is read back from its compact form. -/
theorem read?_compact {v : Json} (h : Legible IsNumeral v) : read? v.compact = some v := by
  rw [← String.append_empty (s := v.compact)]
  exact read?_of_writes (writes_compact h) blank_empty

/-- A legible value is read back from the form over several lines, with blanks behind it. -/
theorem read?_pretty {v : Json} (h : Legible IsNumeral v) {s : String} (hs : Blank s) :
    read? (v.pretty ++ s) = some v :=
  read?_of_writes (writes_prettyAt h 0) hs

/-! ### Lines -/

def OneLine (s : String) : Prop := ∀ c ∈ s.toList, 32 ≤ c.toNat

instance (s : String) : Decidable (OneLine s) := List.decidableBAll _ s.toList

theorem OneLine.append {s t : String} (hs : OneLine s) (ht : OneLine t) : OneLine (s ++ t) := by
  intro c hc
  rw [String.toList_append] at hc
  exact (List.mem_append.1 hc).elim (hs c) (ht c)

theorem oneLine_intercalate {ps : List String} (h : ∀ p ∈ ps, OneLine p) :
    OneLine (",".intercalate ps) := by
  induction ps with
  | nil => exact fun c hc => by simp at hc
  | cons p ps ih =>
    have htail : ∀ q ∈ ps, OneLine q := fun q hq => h q (List.mem_cons_of_mem _ hq)
    cases ps with
    | nil => rw [String.intercalate_singleton]; exact h p List.mem_cons_self
    | cons q ps =>
      have hcomma : OneLine "," := by decide
      rw [String.intercalate_cons_cons]
      exact ((h p List.mem_cons_self).append hcomma).append (ih htail)

theorem not_control_of_mem_escapeChar {c d : Char} (h : d ∈ escapeChar c) : 32 ≤ d.toNat := by
  have pair {x : Char} (hx : 32 ≤ x.toNat) (h : d ∈ ['\\', x]) : 32 ≤ d.toNat := by
    rcases List.mem_cons.1 h with rfl | h
    · decide
    · rwa [List.mem_singleton.1 h]
  unfold escapeChar at h
  iterate 7
    split at h
    · exact pair (by decide) h
  split at h
  · rcases List.mem_cons.1 h with rfl | h
    · decide
    rcases List.mem_cons.1 h with rfl | h
    · decide
    exact Text.not_control_of_mem_hexPadded h
  · next hcontrol =>
    rw [List.mem_singleton.1 h]
    exact Nat.le_of_not_lt hcontrol

theorem oneLine_quote (s : String) : OneLine (quote s) := by
  intro c hc
  simp only [quote, String.toList_ofList, List.cons_append, List.mem_cons, List.mem_append,
    List.mem_flatMap, List.not_mem_nil, or_false] at hc
  rcases hc with rfl | ⟨d, _, hc⟩ | rfl
  · decide
  · exact not_control_of_mem_escapeChar hc
  · decide

theorem oneLine_number {spelling : String} (h : IsNumeral spelling) : OneLine spelling := by
  intro c hc
  have hpart := h.2 c hc
  refine Nat.le_of_not_lt fun hcontrol => ?_
  have hall : ∀ n < 32, isNumberPart (Char.ofNat n) = false := by decide
  rw [← Char.ofNat_toNat c, hall _ hcontrol] at hpart
  cases hpart

/-- The compact form has no controls; so it is one line. -/
theorem oneLine_compact {v : Json} (h : Legible IsNumeral v) : OneLine v.compact := by
  induction h with
  | null => decide
  | bool b => cases b <;> decide
  | number h => exact oneLine_number h
  | string s => exact oneLine_quote s
  | @array items _ ih =>
    have hopen : OneLine "[" := by decide
    have hclose : OneLine "]" := by decide
    rw [compact, compactItems_eq_map]
    refine (hopen.append (oneLine_intercalate ?_)).append hclose
    exact List.forall_mem_map.2 ih
  | @record members _ ih =>
    have hopen : OneLine "\x7b" := by decide
    have hclose : OneLine "\x7d" := by decide
    have hcolon : OneLine ":" := by decide
    rw [record, compact, compactMembers_eq_map]
    refine (hopen.append (oneLine_intercalate ?_)).append hclose
    refine List.forall_mem_map.2 fun p hp => ?_
    exact ((oneLine_quote p.1).append hcolon).append (ih p hp)

end BindingGraph.Json

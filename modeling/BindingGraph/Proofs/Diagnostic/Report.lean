import BindingGraph.Diagnostic.Report
import BindingGraph.Proofs.Diagnostic.Json
import BindingGraph.Proofs.Text.Position
import BindingGraph.Proofs.Text.SelfDelimiting

/-!
# The location in a report

A span counts bytes, and so does the length to which it is clamped. A report takes its offsets
for numbers of characters. So the head of a report names the place behind as many characters as
there are bytes before the fault, which is the place of the fault only if all of these are
ASCII; and if there are too few characters in the source, nothing is drawn at all.

* `SourceLine.Holds`: the line of an offset, and the positions of its characters;
* `TypingError.Locates`: the plain report of an error has a location in its head;
* `render_location`: which location that is, and when it is the one where the fault begins.
-/

namespace BindingGraph

open Text

/-! ### The line of an offset -/

namespace SourceLine

/-- The line of an offset in a text that begins with a line of some number at some offset, or
the last line if the offset is the end of the text. -/
structure Holds (l : SourceLine) (number offset : Nat) (text : List Char) (i : Nat) : Prop where
  begins : l.offset ≤ i
  nonempty : l.offset < l.stop
  within : l.stop ≤ offset + text.length
  last : i < l.stop ∨ l.stop = offset + text.length
  /-- The line and the columns are the positions of its characters. -/
  position : ∀ j, l.offset ≤ j → j < l.stop →
    advance (number, 1) (text.take (j - offset)) = (l.number, j - l.offset + 1)

variable {number offset i : Nat} {chars more text : List Char} {lines : List (List Char)}

theorem holds_first (nonempty : chars ≠ []) (free : '\n' ∉ chars.dropLast) (ho : offset ≤ i)
    (last : i < offset + chars.length ∨ more = []) :
    (⟨number, offset, chars⟩ : SourceLine).Holds number offset (chars ++ more) i where
  begins := ho
  nonempty := Nat.lt_add_of_pos_right (List.length_pos_iff.2 nonempty)
  within := by
    rw [List.length_append]
    exact Nat.add_le_add_left (Nat.le_add_right _ _) offset
  last := last.imp_right fun h => by rw [h, List.append_nil]; rfl
  position j hj hstop := by
    have hj : offset ≤ j := hj
    have hlt : j - offset < chars.length := by
      have : j < offset + chars.length := hstop
      omega
    -- A line feed may only be the last character, and that one is not passed.
    have passed : '\n' ∉ chars.take (j - offset) := by
      intro mem
      rw [List.dropLast_eq_take] at free
      have shorter : chars.take (j - offset) =
          (chars.take (chars.length - 1)).take (j - offset) := by
        rw [List.take_take, Nat.min_eq_left (by omega)]
      exact free (List.mem_of_mem_take (shorter ▸ mem))
    rw [List.take_append_of_le_length (Nat.le_of_lt hlt), advance_of_not_mem passed,
      List.length_take, Nat.min_eq_left (Nat.le_of_lt hlt), Nat.add_comm 1]

theorem offset_le_of_mem {l : SourceLine} (h : l ∈ numberFrom number offset lines) :
    offset ≤ l.offset := by
  induction lines generalizing number offset with
  | nil => cases h
  | cons chars rest ih =>
    rcases List.mem_cons.1 h with rfl | h
    · exact Nat.le_refl _
    · exact Nat.le_trans (Nat.le_add_right _ _) (ih h)

/-- Lines of a text that is cut at line feeds hold its offsets. -/
theorem exists_holds (number : Nat) (cut : Cut lines) (nonempty : lines ≠ [])
    (ho : offset ≤ i) :
    ∃ l, ((numberFrom number offset lines).filter (·.offset ≤ i)).getLast? = some l ∧
      l.Holds number offset lines.flatten i := by
  induction cut generalizing number offset with
  | nil => exact absurd rfl nonempty
  | @last line hline free =>
    refine ⟨⟨number, offset, line⟩, by simp [numberFrom, ho], ?_⟩
    rw [List.flatten_cons]
    exact holds_first hline (fun mem => free (List.dropLast_subset _ mem)) ho (.inr rfl)
  | @cons line rest free cut ih =>
    have first (last : i < offset + (line ++ ['\n']).length ∨ rest.flatten = []) :
        (⟨number, offset, line ++ ['\n']⟩ : SourceLine).Holds number offset
          (line ++ ['\n'] ++ rest.flatten) i :=
      holds_first (by simp) (by simpa using free) ho last
    simp only [numberFrom, List.filter_cons, ho, decide_true, if_true, List.flatten_cons]
    by_cases hi : i < offset + (line ++ ['\n']).length
    · have none : (numberFrom (number + 1) (offset + (line ++ ['\n']).length) rest).filter
          (·.offset ≤ i) = [] := by
        rw [List.filter_eq_nil_iff]
        intro l hl
        have := offset_le_of_mem hl
        simp only [decide_eq_true_eq]
        omega
      exact ⟨_, by rw [none]; rfl, first (.inl hi)⟩
    · by_cases hrest : rest = []
      · subst hrest
        exact ⟨_, rfl, first (.inr rfl)⟩
      · obtain ⟨l, hl, holds⟩ := ih (number + 1) hrest (Nat.le_of_not_lt hi)
        refine ⟨l, by rw [List.getLast?_cons, hl]; rfl, holds.begins, holds.nonempty, ?_, ?_, ?_⟩
        · rw [List.length_append, ← Nat.add_assoc]
          exact holds.within
        · rw [List.length_append, ← Nat.add_assoc]
          exact holds.last
        · intro j hj hstop
          have later := Nat.le_trans (offset_le_of_mem
            (List.mem_of_mem_filter (List.mem_of_getLast? hl))) hj
          rw [List.take_append, advance_append, List.take_of_length_le (by omega),
            advance_lineFeed free, Nat.sub_sub]
          exact holds.position j hj hstop

/-- The line that is found for an offset of a source. -/
theorem exists_lineAt {source : List Char} (hsource : source ≠ [])
    (feeds : ∀ c ∈ source, isLineEnd c = true → c = '\n') (hi : i ≤ source.length) :
    ∃ l, lineAt? (ofSource source) source.length i = some l ∧ l.Holds 1 0 source i := by
  have nonempty : splitLines source ≠ [] := by
    intro h
    rw [← flatten_splitLines source, h] at hsource
    exact hsource rfl
  obtain ⟨l, hl, holds⟩ := exists_holds 1 (cut_splitLines feeds) nonempty (Nat.zero_le i)
  rw [flatten_splitLines] at holds
  refine ⟨l, ?_, holds⟩
  rw [lineAt?, if_pos hi, ofSource, if_neg (by simpa using hsource)]
  exact hl

end SourceLine

namespace Report

variable {source : List Char} {span : Span}

/-- There is no place in the source for a span that ends too far behind it. -/
theorem place?_eq_none (h : source.length + 1 < span.stop) : place? source span = none := by
  have beyond : ¬ max (span.stop - 1) span.start ≤ source.length := by omega
  simp only [place?, lineAt?, if_neg beyond]
  cases (if span.start ≤ source.length then _ else _ : Option SourceLine) <;> rfl

theorem exists_place (hsource : source ≠ [])
    (feeds : ∀ c ∈ source, isLineEnd c = true → c = '\n') (hstart : span.start ≤ source.length)
    (hstop : span.stop ≤ source.length + 1) :
    ∃ p, place? source span = some p ∧ p.span = span ∧ p.first.Holds 1 0 source span.start := by
  obtain ⟨first, hfirst, holds⟩ := SourceLine.exists_lineAt hsource feeds hstart
  have hlast : max (span.stop - 1) span.start ≤ source.length := by omega
  obtain ⟨last, hlast, -⟩ := SourceLine.exists_lineAt hsource feeds hlast
  exact ⟨⟨span, first, last⟩, by simp only [place?, hfirst, hlast]; rfl, rfl, holds⟩

end Report

/-! ### The text of a plain report -/

namespace Piece

variable {ps qs : List Piece}

@[simp] theorem renderAll_cons (p : Piece) (ps : List Piece) :
    renderAll false (p :: ps) = p.text ++ renderAll false ps :=
  String.join_cons

@[simp] theorem renderAll_nil : renderAll false [] = "" := rfl

@[simp] theorem renderAll_append :
    renderAll false (ps ++ qs) = renderAll false ps ++ renderAll false qs := by
  simp only [renderAll, List.map_append, String.join_append]

@[simp] theorem renderAll_singly (ink : Ink) (chars : List Char) :
    renderAll false (singly ink chars) = String.ofList chars := by
  induction chars with
  | nil => rfl
  | cons c rest ih =>
    show renderAll false (⟨ink, c.toString⟩ :: singly ink rest) = _
    rw [renderAll_cons, ih]
    exact String.ofList_append.symm

@[simp] theorem renderAll_blanks (count : Nat) :
    renderAll false (blanks count) = String.ofList (List.replicate count ' ') := by
  unfold blanks
  split
  · rename_i h
    subst h
    rfl
  · rw [renderAll_cons]
    exact String.append_empty

end Piece

namespace TypingError

variable {e : TypingError} {source : String} {span : Span} {p : Place}

/-- The line above the frame of a plain report. -/
def titleLine (e : TypingError) : String :=
  "[" ++ e.fault.code ++ "] Error: " ++ e.fault.message ++ "\n"

/-- The first line of the frame, from its corner on. -/
def cornerLine (location : Nat × Nat) : String :=
  "╭─[ <unknown>:" ++ toString location.1 ++ ":" ++ toString location.2 ++ " ]\n"

/-- The plain report of an error has the line and the column in its head: behind the title and
a margin of blanks. -/
def Locates (e : TypingError) (source : String) (location : Nat × Nat) : Prop :=
  ∃ (margin : Nat) (rest : String), e.render false source =
    e.titleLine ++ (String.ofList (List.replicate margin ' ') ++ (cornerLine location ++ rest))

theorem renderAll_title (e : TypingError) :
    Piece.renderAll false (Report.title e.fault) = e.titleLine := by
  have colon : "] Error: " = "] Error:" ++ " " := rfl
  simp only [Report.title, Report.newLine, Piece.plain, Piece.renderAll_cons, Piece.renderAll_nil,
    titleLine, colon, String.append_assoc, String.append_empty]

theorem renderAll_head (p : Place) : ∃ rest, Piece.renderAll false (Report.head p) =
    String.ofList (List.replicate (Report.numberWidth p + 2) ' ') ++
      (cornerLine (Report.location p) ++ rest) := by
  have corner : "╭─[ <unknown>:" = String.ofList "╭─[".toList ++ " <unknown>:" := by simp
  have closing : " ]\n" = " " ++ ("]" ++ "\n") := rfl
  refine ⟨Piece.renderAll false
    (Piece.blanks (Report.numberWidth p + 2) ++ [⟨.frame, "│"⟩, Report.newLine]), ?_⟩
  unfold Report.head cornerLine
  generalize Report.location p = location
  obtain ⟨line, column⟩ := location
  dsimp only
  rw [List.append_assoc, List.append_assoc, List.append_assoc, Piece.renderAll_append,
    Piece.renderAll_blanks, Piece.renderAll_append, Piece.renderAll_singly,
    Piece.renderAll_append, Piece.renderAll_cons, Piece.renderAll_cons, Piece.renderAll_cons,
    Piece.renderAll_nil, corner, closing]
  simp only [String.append_assoc, String.empty_append, Piece.plain, Report.newLine]

/-- The place of an error in a source, when it has a span that lies there. -/
def place? (e : TypingError) (source : String) : Option Place :=
  e.span.bind fun span => Report.place? source.toList (span.clamp source.utf8ByteSize)

theorem render_of_place_none (h : e.place? source = none) :
    e.render false source = e.titleLine := by
  rw [place?] at h
  rw [render, report, h, Piece.renderAll_append, renderAll_title]
  exact String.append_empty

theorem render_of_place_some (h : e.place? source = some p) : e.render false source =
    e.titleLine ++
      Piece.renderAll false (Report.frame source.toList p e.fault.label e.fault.help?) := by
  rw [place?] at h
  rw [render, report, h, Piece.renderAll_append, renderAll_title]
  rfl

theorem locates_location (h : e.place? source = some p) :
    e.Locates source (Report.location p) := by
  obtain ⟨rest, hhead⟩ := renderAll_head p
  have drawn := render_of_place_some h
  rw [Report.frame, List.append_assoc, List.append_assoc, Piece.renderAll_append, hhead,
    String.append_assoc, String.append_assoc] at drawn
  exact ⟨_, _, drawn⟩

theorem toList_cornerLine (location : Nat × Nat) : (cornerLine location).toList =
    '╭' :: ("─[ <unknown>:".toList ++ (Nat.toDigits 10 location.1 ++
      ':' :: (Nat.toDigits 10 location.2 ++ ' ' :: "]\n".toList))) := by
  have corner : "╭─[ <unknown>:".toList = '╭' :: "─[ <unknown>:".toList := by simp
  have closing : " ]\n".toList = ' ' :: "]\n".toList := by simp
  have colon : ":".toList = [':'] := by simp
  unfold cornerLine
  simp only [String.toList_append, Nat.toString_eq_repr, Nat.toList_repr, corner,
    closing, colon, List.append_assoc, List.cons_append, List.nil_append]

/-- A number ends before a character that is no digit. -/
theorem toDigits_append_inj {n n' : Nat} {stop : Char} {rest rest' : List Char}
    (hstop : stop.isDigit = false)
    (h : Nat.toDigits 10 n ++ stop :: rest = Nat.toDigits 10 n' ++ stop :: rest') :
    n = n' ∧ rest = rest' := by
  have digits (n : Nat) : ∀ c ∈ Nat.toDigits 10 n, c.isDigit = true :=
    fun c hc => Nat.isDigit_of_mem_toDigits (by decide) (by decide) hc
  obtain ⟨same, hrest⟩ := run_append_inj (digits n) (digits n') hstop hstop h
  have value := congrArg (Nat.ofDigitChars 10 · 0) same
  simp only [Nat.ofDigitChars_ten_toDigits] at value
  exact ⟨value, (List.cons.inj hrest).2⟩

/-- A report has one location in its head. -/
theorem Locates.unique {location location' : Nat × Nat} (h : e.Locates source location)
    (h' : e.Locates source location') : location = location' := by
  obtain ⟨margin, rest, h⟩ := h
  obtain ⟨margin', rest', h'⟩ := h'
  have eq := congrArg String.toList ((String.append_right_inj _).1 (h.symm.trans h'))
  simp only [String.toList_append, String.toList_ofList, toList_cornerLine, List.cons_append,
    List.append_assoc] at eq
  have blank (margin : Nat) : ∀ c ∈ List.replicate margin ' ', (c == ' ') = true := by
    intro c hc
    rw [(List.mem_replicate.1 hc).2]
    rfl
  obtain ⟨-, hcorner⟩ := run_append_inj (blank margin) (blank margin') (by decide) (by decide) eq
  have digits := List.append_cancel_left (List.cons.inj hcorner).2
  obtain ⟨line, digits⟩ := toDigits_append_inj (by decide) digits
  exact Prod.ext line (toDigits_append_inj (by decide) digits).1

theorem not_locates_of_titleLine (h : e.render false source = e.titleLine)
    (location : Nat × Nat) : ¬ e.Locates source location := by
  rintro ⟨margin, rest, h'⟩
  have eq : (e.titleLine ++ "" : String) = e.titleLine ++ _ :=
    String.append_empty.trans (h.symm.trans h')
  have empty := congrArg (List.length ∘ String.toList) ((String.append_right_inj _).1 eq)
  simp [toList_cornerLine] at empty

end TypingError

/-- A span covers some characters of a source. -/
structure Span.Covers (span : Span) (source : String) : Prop where
  nonempty : span.start < span.stop
  within : span.stop ≤ source.utf8ByteSize
  start : isBoundary span.start source.toList = true
  stop : isBoundary span.stop source.toList = true

namespace Span.Covers

variable {span : Span} {source : String}

theorem clamp (h : span.Covers source) : span.clamp source.utf8ByteSize = span := by
  obtain ⟨start, stop⟩ := (span.shownAt_clamp source.utf8ByteSize).exact h.nonempty h.within
  cases hclamp : span.clamp source.utf8ByteSize
  cases span
  simp_all

theorem start_lt (h : span.Covers source) : span.start < String.utf8Len source.toList := by
  rw [← String.utf8ByteSize_ofList, String.ofList_toList]
  exact Nat.lt_of_lt_of_le h.nonempty h.within

theorem source_ne_nil (h : span.Covers source) : source.toList ≠ [] := by
  intro empty
  have := h.start_lt
  rw [empty] at this
  exact absurd this (Nat.not_lt_zero _)

end Span.Covers

namespace TypingError

variable {e : TypingError} {source : String} {span : Span}

theorem place?_of_covers (hspan : e.span = some span) (covers : span.Covers source) :
    e.place? source = Report.place? source.toList span := by
  rw [place?, hspan, Option.bind_some, covers.clamp]

/-- A place in the source behind which a fault does not end too far is drawn: the head has its
line and column, counted as if the span counted characters. -/
theorem locates_of_stop_le (hspan : e.span = some span) (covers : span.Covers source)
    (feeds : ∀ c ∈ source.toList, isLineEnd c = true → c = '\n')
    (hstop : span.stop ≤ source.length + 1) :
    (span.start < source.length →
      e.Locates source (advance (1, 1) (source.toList.take span.start))) ∧
    (span.start = source.length →
      e.Locates source ((advance (1, 1) (source.toList.take (span.start - 1))).1,
        (advance (1, 1) (source.toList.take (span.start - 1))).2 + 1)) := by
  have nonempty := covers.nonempty
  rw [← String.length_toList] at hstop ⊢
  obtain ⟨p, hp, rfl, holds⟩ :=
    Report.exists_place covers.source_ne_nil feeds (by omega) hstop
  have located := locates_location ((place?_of_covers hspan covers).trans hp)
  obtain ⟨begins, filled, within, last, position⟩ := holds
  simp only [Nat.zero_add, Nat.sub_zero] at within last position
  refine ⟨fun hstart => ?_, fun hstart => ?_⟩
  · rw [position _ begins (by omega)]
    exact located
  · rw [position _ (by omega) (by omega)]
    have column :
        p.span.start - 1 - p.first.offset + 1 + 1 = p.span.start - p.first.offset + 1 := by
      omega
    rw [column]
    exact located

/-- The head of a plain report has the location of the character before which there are as many
characters as there are bytes before the fault; nothing is drawn if there are too few. That is
the location where the fault begins only if every character before the fault is ASCII. -/
theorem render_location (hspan : e.span = some span) (covers : span.Covers source)
    (feeds : ∀ c ∈ source.toList, isLineEnd c = true → c = '\n') :
    (source.length + 1 < span.stop → e.render false source = e.titleLine) ∧
    (span.stop ≤ source.length + 1 → span.start < source.length →
      e.Locates source (advance (1, 1) (source.toList.take span.start))) ∧
    (span.stop ≤ source.length + 1 → span.start = source.length →
      e.Locates source ((advance (1, 1) (source.toList.take (span.start - 1))).1,
        (advance (1, 1) (source.toList.take (span.start - 1))).2 + 1)) ∧
    (e.Locates source (position source span.start) ↔
      span.stop ≤ source.length + 1 ∧
        ∀ c ∈ before span.start source.toList, c.toNat < 128) := by
  have undrawn (h : source.length + 1 < span.stop) : e.render false source = e.titleLine := by
    apply render_of_place_none
    rw [place?_of_covers hspan covers]
    exact Report.place?_eq_none (String.length_toList ▸ h)
  have drawn := locates_of_stop_le hspan covers feeds
  have few := length_before_lt covers.start covers.start_lt
  have le := length_before_le covers.start
  refine ⟨undrawn, fun h => (drawn h).1, fun h => (drawn h).2, ?_⟩
  rw [position_eq_advance_take, ← length_before_eq_iff covers.start]
  rw [String.length_toList] at few
  constructor
  · intro located
    have hstop : span.stop ≤ source.length + 1 := by
      apply Nat.le_of_not_lt
      intro h
      exact not_locates_of_titleLine (undrawn h) _ located
    refine ⟨hstop, ?_⟩
    have hlength : source.toList.length = source.length := String.length_toList
    have nonempty := covers.nonempty
    -- Were there fewer characters than bytes, the head would have the position of another one.
    by_contra fewer
    rcases Nat.lt_or_eq_of_le (show span.start ≤ source.length by omega) with hstart | hstart
    · have short : span.start ≤ source.toList.length := by omega
      exact advance_take_ne (1, 1) 0 le short (.inl (by omega))
        (((drawn hstop).1 hstart).unique located)
    · have short : span.start - 1 ≤ source.toList.length := by omega
      exact advance_take_ne (1, 1) 1 (by omega) short (.inr Nat.one_pos)
        (((drawn hstop).2 hstart).unique located)
  · rintro ⟨hstop, same⟩
    rw [same]
    exact (drawn hstop).1 (same ▸ few)

def undeclaredAt (start : Nat) : TypingError :=
  ⟨.undefinedVariable "xy", some ⟨start, start + 2, Nat.le_add_right start 2⟩⟩

/-- The location of a fault behind ASCII is found, on whichever line, and a fault at the end of
a source with wide characters is not drawn. -/
theorem render_location_undeclaredAt :
    ((undeclaredAt 5).Locates "f +\n xy" (2, 2) ∧ position "f +\n xy" 5 = (2, 2)) ∧
    (undeclaredAt 9).render false "ééé + xy" = (undeclaredAt 9).titleLine := by
  have ascii : (⟨5, 7, by decide⟩ : Span).Covers "f +\n xy" :=
    ⟨by decide, by decide +kernel, by decide +kernel, by decide +kernel⟩
  have wide : (⟨9, 11, by decide⟩ : Span).Covers "ééé + xy" :=
    ⟨by decide, by decide +kernel, by decide +kernel, by decide +kernel⟩
  obtain ⟨-, -, -, located⟩ := render_location (e := undeclaredAt 5) rfl ascii (by simp [isLineEnd])
  obtain ⟨undrawn, -⟩ := render_location (e := undeclaredAt 9) rfl wide (by simp [isLineEnd])
  have found : position "f +\n xy" 5 = (2, 2) := by decide +kernel
  have characters : before 5 "f +\n xy".toList = "f +\n ".toList := by decide +kernel
  rw [characters, found] at located
  exact ⟨⟨located.2 ⟨by decide +kernel, by simp⟩, found⟩, undrawn (by decide +kernel)⟩

/-- A wide character before a fault shifts the column by the bytes that it has more. -/
theorem render_location_shifted :
    ¬ ∀ (e : TypingError) (source : String) (span : Span), e.span = some span →
      span.Covers source → (∀ c ∈ source.toList, isLineEnd c = true → c = '\n') →
        e.Locates source (position source span.start) := by
  intro claim
  have covers : (⟨5, 7, by decide⟩ : Span).Covers "é + xy + z" :=
    ⟨by decide, by decide +kernel, by decide +kernel, by decide +kernel⟩
  have feeds : ∀ c ∈ "é + xy + z".toList, isLineEnd c = true → c = '\n' := by simp [isLineEnd]
  have located := claim (undeclaredAt 5) _ _ rfl covers feeds
  have drawn := (locates_of_stop_le (e := undeclaredAt 5) rfl covers feeds (by decide +kernel)).1
    (by decide +kernel)
  have same := drawn.unique located
  exact absurd same (by decide +kernel)

end TypingError

end BindingGraph

import BindingGraph.Proofs.Diagnostic.Report

/-!
# What a report says

A report in colours is the plain one with escape sequences in it. A plain report begins with the
code and the message of the fault. If the fault has a place in the source, the line and the column
of the place, the label and the advice follow, and else nothing does.

* `Shows`: a text with or without colours;
* `TypingError.Worded`: a plain report says what the error says;
* `TypingError.shows_render`, `TypingError.worded_render`: both are so of every report.
-/

namespace BindingGraph

/-! ### Colours -/

/-- A text with inks in it, of which the first one is left without the escape sequences. -/
inductive Inked : String → String → Prop
  | plain (text : String) : Inked text text
  | ink {ink : Ink} {code : String} (hcode : ink.code? = some code) (text : String) :
    Inked text ("\x1b[" ++ code ++ "m" ++ text ++ "\x1b[0m")
  | append {text text' inked inked' : String} (h : Inked text inked) (h' : Inked text' inked') :
    Inked (text ++ text') (inked ++ inked')

/-- A text as it is sent to a terminal, with colours or without. -/
structure Shows (color : Bool) (plain text : String) : Prop where
  inked : Inked plain text
  same : color = false → text = plain

namespace Piece

variable {ps qs : List Piece}

theorem inked_render (p : Piece) : Inked p.text (p.render true) := by
  unfold render
  cases hcode : p.ink.code? with
  | none => exact .plain p.text
  | some code => exact .ink hcode p.text

theorem inked_renderAll (ps : List Piece) : Inked (renderAll false ps) (renderAll true ps) := by
  induction ps with
  | nil => exact .plain ""
  | cons p ps ih =>
    have hink : renderAll true (p :: ps) = p.render true ++ renderAll true ps := String.join_cons
    rw [renderAll_cons, hink]
    exact .append p.inked_render ih

theorem shows_renderAll (color : Bool) (ps : List Piece) :
    Shows color (renderAll false ps) (renderAll color ps) := by
  cases color with
  | false => exact ⟨.plain _, fun _ => rfl⟩
  | true => exact ⟨inked_renderAll ps, fun h => by cases h⟩

/-- A line of a drawing ends a line of its text. -/
theorem line_infix_renderAll {start line : String}
    (h : [.plain (start ++ line), Report.newLine] <:+: ps) :
    (line ++ "\n").toList <:+: (renderAll false ps).toList := by
  obtain ⟨above, below, rfl⟩ := h
  have hline : renderAll false [.plain (start ++ line), Report.newLine] =
      start ++ (line ++ "\n") := by
    rw [renderAll_cons, renderAll_cons, renderAll_nil, String.append_empty]
    exact String.append_assoc
  refine ⟨(renderAll false above ++ start).toList, (renderAll false below).toList, ?_⟩
  simp only [renderAll_append, hline, String.toList_append, List.append_assoc]

end Piece

/-- A place of which the label is drawn: what begins and ends in one line must end in it. -/
def Place.Labelled (p : Place) : Prop := p.first.number = p.last.number → p.span.stop ≤ p.first.stop

namespace Report

variable {source : List Char} {p : Place} {label line : String}

theorem label_infix_frame {help : Option String} (h : p.Labelled) :
    [.plain (" " ++ label), newLine] <:+: frame source p label help := by
  have drawn : [.plain (" " ++ label), newLine] <:+:
      if p.first.number = p.last.number then singleLine p label else severalLines p label := by
    split
    · next hsame =>
      rw [singleLine, if_neg (Nat.not_lt.2 (h hsame))]
      exact (List.suffix_append _ _).isInfix
    · exact (List.suffix_append _ _).isInfix
  rw [frame, List.append_assoc]
  exact drawn.trans (List.infix_append _ _ _)

theorem advice_infix_frame {help : String} (h : line ∈ adviceLines help) :
    ∃ start, [.plain (start ++ line), newLine] <:+: frame source p label (some help) := by
  have ends {ps drawn before : List Piece} {lines : List (List Piece)} (hps : ps <:+ drawn)
      (hmem : drawn ∈ lines) : ps <:+: before ++ lines.flatten :=
    hps.isInfix.trans ((List.infix_of_mem_flatten hmem).trans (List.suffix_append _ _).isInfix)
  have drawn : ∃ start, [.plain (start ++ line), newLine] <:+: advice source p help := by
    unfold advice
    generalize adviceLines help = lines at h
    cases lines with
    | nil => cases h
    | cons first rest =>
      rcases List.mem_cons.1 h with rfl | hrest
      · exact ⟨": ", ends ⟨bar (numberWidth p) ++ adviceIndent source p ++ [⟨.advice, "Help"⟩],
          by simp⟩ List.mem_cons_self⟩
      · exact ⟨repeated 6 ' ', ends (List.suffix_append _ _)
          (List.mem_cons_of_mem _ (List.mem_map_of_mem hrest))⟩
  obtain ⟨start, drawn⟩ := drawn
  refine ⟨start, ?_⟩
  rw [frame]
  exact drawn.trans (List.infix_append _ _ _)

end Report

/-! ### Reports -/

namespace TypingError

/-- A plain report of an error about a source: the title, and below it what belongs to the place
of the error if there is one. -/
structure Worded (e : TypingError) (source text : String) : Prop where
  title : e.titleLine.toList <+: text.toList
  bare : e.place? source = none → text = e.titleLine
  /-- Below the title stand the line and the column, behind a margin. -/
  location : ∀ p, e.place? source = some p → ∃ (margin : Nat) (rest : String), text =
    e.titleLine ++ (String.ofList (List.replicate margin ' ') ++
      (cornerLine (Report.location p) ++ rest))
  label : ∀ p, e.place? source = some p → p.Labelled →
    (e.fault.label ++ "\n").toList <:+: text.toList
  help : ∀ p help, e.place? source = some p → e.fault.help? = some help →
    ∀ line ∈ Report.adviceLines help, (line ++ "\n").toList <:+: text.toList

variable {e : TypingError} {source : String} {p : Place}

theorem infix_render {line : String} (h : e.place? source = some p) (hline : line.toList <:+:
    (Piece.renderAll false (Report.frame source.toList p e.fault.label e.fault.help?)).toList) :
    line.toList <:+: (e.render false source).toList := by
  rw [render_of_place_some h, String.toList_append]
  exact hline.trans (List.suffix_append _ _).isInfix

theorem worded_render (e : TypingError) (source : String) :
    e.Worded source (e.render false source) where
  title := by
    rw [render, report, Piece.renderAll_append, renderAll_title, String.toList_append]
    exact List.prefix_append _ _
  bare := render_of_place_none
  location _ h := locates_location h
  label _ h labelled :=
    infix_render h (Piece.line_infix_renderAll (Report.label_infix_frame labelled))
  help _ _ h hhelp _ hline := by
    obtain ⟨_, drawn⟩ := Report.advice_infix_frame hline
    refine infix_render h ?_
    rw [hhelp]
    exact Piece.line_infix_renderAll drawn

/-- A report, in colours or not, shows a plain one. -/
theorem shows_render (e : TypingError) (color : Bool) (source : String) :
    Shows color (e.render false source) (e.render color source) :=
  Piece.shows_renderAll color _

end TypingError

end BindingGraph

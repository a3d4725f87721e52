import ResourceScript.Proofs.Block.Rows
import ResourceScript.Proofs.Unquote.Delimited

/-!
# The lines of a block

A line consists of the indentation, the name with its equals sign, the literal, and what follows the
literal. The row is assigned at its own name, and no other name is assigned before the literal. When
the line terminator is blank, a word may begin at every line, and no line begins escaped.

## Main definitions

* `Block.Row.header`, `Block.Row.tail`: the parts of a line around the literal.
* `Block.linesOf`: the lines of rows with a given width of their names.
* `Block.writtenRows`: the rendering that has written these lines.

## Main results

* `Block.assignedRest?_line_self`: a row is assigned at its own name.
* `Block.assignedRest?_line_of_ne`: another name can be assigned from the literal on only.
* `Block.escapesNext_linesOf`: no line begins escaped.
-/

namespace ResourceScript.Block

open Text (IsName isBlank escapeLead)
open Unquote

/-- What stands between the indentation and the literal in the line of a row. -/
def Row.header (width : Nat) (r : Row) : Text :=
  r.name ++ ' ' :: (List.replicate (width - r.name.length) ' ' ++ ['=', ' '])

/-- What follows the literal in the line of a row. -/
def Row.tail (settings : Settings) (r : Row) : Text :=
  ';' :: ((if r.comment.isEmpty then [] else ' ' :: r.comment) ++ settings.lineTerminator)

/-- The lines of rows, their names padded to a given width. -/
def linesOf (settings : Settings) (width : Nat) (rows : List Row) : Text :=
  (rows.map (Row.line settings width)).flatten

/-- The rendering that has written the given rows, their names padded to a given width. -/
def writtenRows (settings : Settings) (width : Nat) (rows : List Row) : Rendering :=
  renderingOf (.ok (linesOf settings width rows)) rows

variable {settings : Settings} {width : Nat} {r r' : Row} {rows : List Row} {name t : Text}
  {start odd : Bool}

theorem Row.line_eq (settings : Settings) (width : Nat) (r : Row) : r.line settings width =
    settings.indent ++ (r.header width ++ (r.literal ++ r.tail settings)) := by
  have hpad : Text.padRight width r.name ++ [' ', '=', ' '] = r.header width := by
    rw [Text.padRight, Row.header, List.append_assoc]
    refine congrArg (r.name ++ ·) ?_
    rw [show [' ', '=', ' '] = List.replicate 1 ' ' ++ ['=', ' '] from rfl, ← List.append_assoc,
      List.replicate_append_replicate, Nat.add_comm, ← List.replicate_append_replicate]
    rfl
  simp [Row.line, ← hpad, Row.tail]

theorem Row.line_congr (hname : r.name = r'.name) (hliteral : r.literal = r'.literal)
    (hcomment : r.comment = r'.comment) : r.line settings width = r'.line settings width := by
  rw [line, line, hname, hliteral, hcomment]

theorem Row.tail_of_comment_eq_nil (h : r.comment = []) :
    r.tail settings = settings.statementEnd := by
  rw [Row.tail, h]
  rfl

@[simp] theorem linesOf_nil : linesOf settings width [] = [] := rfl

@[simp] theorem linesOf_cons (r : Row) (rows : List Row) : linesOf settings width (r :: rows) =
    r.line settings width ++ linesOf settings width rows := rfl

@[simp] theorem linesOf_append (rows rows' : List Row) :
    linesOf settings width (rows ++ rows') =
      linesOf settings width rows ++ linesOf settings width rows' := by
  simp [linesOf]

theorem textOf_eq_linesOf (settings : Settings) (rows : List Row) :
    textOf settings rows = linesOf settings (nameWidth settings rows) rows := rfl

/-- A block that is written consists of its rows. -/
theorem render_eq_writtenRows {values : List (Text × NamedValue)} {block : Text}
    (h : (render ctx values).outcome = .ok block) :
    render ctx values = writtenRows ctx.settings
      (columnWidth ctx.settings ((printed ctx.settings values).map (·.name)))
      (rowsOf ctx values) := by
  rw [render_eq_of_outcome_eq_ok h, textOf_eq_linesOf, nameWidth_eq_columnWidth, map_name_rowsOf,
    writtenRows]

/-! ### Blank parts -/

theorem isBlank_of_mem_indent {c : Char} (h : c ∈ settings.indent) : isBlank c :=
  List.all_eq_true.mp settings.indent_blank c h

theorem escapesNext_append_of_isBlank {s u : Text} (hs : ∀ c ∈ s, isBlank c) (hne : s ≠ []) :
    escapesNext odd (u ++ s) = false := by
  obtain ⟨v, c, rfl⟩ := (List.eq_nil_or_concat' s).resolve_left hne
  have hlead : c ≠ escapeLead := by
    rintro rfl
    exact absurd (hs escapeLead (by simp)) (by decide)
  rw [← List.append_assoc, escapesNext_append, escapesNext, beq_eq_false_iff_ne.mpr hlead]
  rfl

theorem escapesNext_concat_of_isBlank {c : Char} {u : Text} (hc : isBlank c) :
    escapesNext odd (u ++ [c]) = false :=
  escapesNext_append_of_isBlank (List.forall_mem_singleton.mpr hc) (List.cons_ne_nil c [])

section Blank

variable (hblank : ∀ c ∈ settings.lineTerminator, isBlank c)

include hblank

/-- No line begins escaped. -/
theorem escapesNext_linesOf (rows : List Row) :
    escapesNext false (linesOf settings width rows) = false := by
  suffices ∀ odd, escapesNext odd (linesOf settings width rows) = (rows.isEmpty && odd) by
    simpa using this false
  induction rows with
  | nil => exact fun odd => (Bool.true_and odd).symm
  | cons r rows ih =>
    intro odd
    have hline : escapesNext odd (r.line settings width) = false :=
      escapesNext_append_of_isBlank hblank settings.lineTerminator_ne_nil
    rw [linesOf_cons, escapesNext_append, hline, ih, Bool.and_false]
    rfl

theorem escapesNext_linesOf_append_indent (rows : List Row) :
    escapesNext false (linesOf settings width rows ++ settings.indent) = false := by
  by_cases hindent : settings.indent = []
  · rw [hindent, List.append_nil, escapesNext_linesOf hblank]
  · exact escapesNext_append_of_isBlank (fun c hc => isBlank_of_mem_indent hc) hindent

/-- A word may begin behind a line terminator. -/
theorem assignedRest?_lineTerminator (hname : IsName name) :
    assignedRest? name start (settings.lineTerminator ++ t) = assignedRest? name true t :=
  assignedRest?_append_of_isBlank hname hblank (Or.inr settings.lineTerminator_ne_nil)

theorem assignedRest?_statementEnd (hname : IsName name) :
    assignedRest? name start (settings.statementEnd ++ t) = assignedRest? name true t := by
  rw [Settings.statementEnd, List.cons_append,
    assignedRest?_cons_of_notMem hname hname.semicolon_notMem,
    assignedRest?_lineTerminator hblank hname]

end Blank

/-! ### Headers -/

section Header

theorem notMem_header {c : Char} (hc : c ∉ r.name) (hblank : c ≠ ' ') (hequals : c ≠ '=') :
    c ∉ r.header width := by
  simp [Row.header, hc, hblank, hequals]

variable (hr : IsName r.name)

include hr

theorem isSealed_header : IsSealed (r.header width) :=
  isSealed_of_notMem (notMem_header hr.quote_notMem (by decide) (by decide))
    (notMem_header hr.backtick_notMem (by decide) (by decide))

theorem ahead_header : ahead (r.header width ++ t) = .equals := by
  have hquote : '\x22' ∉ r.name ++ ' ' :: List.replicate (width - r.name.length) ' ' := by
    simp [hr.quote_notMem]
  simpa [Row.header] using ahead_append_equals hquote (' ' :: t)

theorem beginsAssignment_header : BeginsAssignment r.name (r.header width ++ t) := by
  refine ⟨?_, ahead_header hr⟩
  rw [Row.header, List.append_assoc]
  exact (List.prefix_append_right_inj r.name).mpr (by simp)

theorem ahead_line : ahead (r.line settings width ++ t) = .equals := by
  have hquote : '\x22' ∉ settings.indent := fun h =>
    absurd (isBlank_of_mem_indent h) (by decide)
  rw [Row.line_eq, List.append_assoc, ahead_append_iff, List.append_assoc]
  exact Or.inr ⟨hquote, ahead_header hr⟩

/-- No statement ends in a header. -/
theorem find?_header : Text.find? settings.statementEnd (r.header width ++ t) =
    (Text.find? settings.statementEnd t).map (· + (r.header width).length) :=
  Text.find?_append_of_notMem (notMem_header hr.semicolon_notMem (by decide) (by decide))

/-- A row is assigned at its own name. -/
theorem assignedRest?_line_self : assignedRest? r.name true (r.line settings width ++ t) =
    some (r.header width ++ (r.literal ++ (r.tail settings ++ t))) := by
  rw [Row.line_eq, List.append_assoc, assignedRest?_append_of_isBlank hr
    (fun c hc => isBlank_of_mem_indent hc) (Or.inl rfl), List.append_assoc, List.append_assoc]
  exact assignedRest?_of_beginsAssignment (beginsAssignment_header hr)

/-- Another name can be assigned from the literal on only. -/
theorem assignedRest?_line_of_ne (hname : IsName name) (hne : name ≠ r.name) :
    assignedRest? name true (r.line settings width ++ t) =
      assignedRest? name true (r.literal ++ (r.tail settings ++ t)) := by
  have hpad (k : Nat) (u : Text) : assignedRest? name true (List.replicate k ' ' ++ u) =
      assignedRest? name true u := by
    refine assignedRest?_append_of_isBlank hname (fun c hc => ?_) (Or.inl rfl)
    rw [List.eq_of_mem_replicate hc]
    decide
  rw [Row.line_eq, List.append_assoc, assignedRest?_append_of_isBlank hname
    (fun c hc => isBlank_of_mem_indent hc) (Or.inl rfl), List.append_assoc, List.append_assoc,
    Row.header, List.append_assoc, List.cons_append, assignedRest?_name_append hname hr hne,
    List.append_assoc, hpad, List.cons_append, List.cons_append,
    assignedRest?_cons_of_notMem hname hname.equals_notMem,
    assignedRest?_cons_of_notMem hname hname.blank_notMem]
  rfl

end Header

end ResourceScript.Block

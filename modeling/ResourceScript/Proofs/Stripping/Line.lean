import ResourceScript.Proofs.Stripping.Composite

/-!
# A block of one line

With the default settings a row is written on one line when no carriage return stands in its
literal. Its statement then ends behind the literal, and tidying finds nothing to change in it
unless the literal holds a backtick or closes a list behind a quote. So composite stripping of a
block with one such row is settled by the quotes that it deletes.

## Main results

* `Unquote.boundaries_line`: the quotes that are paired in a line.
* `Unquote.tidy_line`: tidying leaves the line as it is.
* `Unquote.stripQuotes_line`: composite stripping deletes the paired quotes.
* `Unquote.writtenWith_singleton`: the block of a single value.
-/

namespace ResourceScript.Unquote

open Text (IsName escapeLead)
open Settings (standard)
open Block

variable {width : Nat} {r : Row} {literal s : Text} {nv : NamedValue}

/-! ### Statements without a carriage return -/

theorem not_statementEnd_infix (hreturn : '\r' ∉ s) : ¬ standard.statementEnd <:+: s := fun h =>
  hreturn (h.subset (by decide))

/-- A text on one line is tidy together with the end of its statement. -/
theorem isTidy_append_statementEnd (hreturn : '\r' ∉ s) :
    IsTidy standard.lineTerminator (s ++ standard.statementEnd) := by
  rintro p (⟨blanks, c, rfl, -⟩ | rfl) h
  · -- a lone separator stands between two carriage returns, and there is only one
    have hcount := h.sublist.count_le '\r'
    have hnone : s.count '\r' = 0 := List.count_eq_zero.mpr hreturn
    have hend : standard.statementEnd.count '\r' = 1 := by decide
    have hlead : standard.lineTerminator.count '\r' = 1 := by decide
    rw [List.count_append, List.count_append, List.count_append, List.count_cons, hnone, hend,
      hlead] at hcount
    omega
  · have hcut : s ++ standard.statementEnd = s ++ ';' :: ['\r', '\n'] := rfl
    rw [hcut, Text.infix_append_cons_iff (by decide) (by decide)] at h
    rcases h with h | h
    · exact hreturn (h.subset (by decide))
    · exact absurd h (by decide)

/-! ### Lines -/

theorem line_eq_append_statementEnd (width : Nat) (hcomment : r.comment = []) :
    r.line standard width =
      standard.indent ++ ((r.header width ++ r.literal) ++ standard.statementEnd) := by
  rw [Row.line_eq, Row.tail_of_comment_eq_nil hcomment, List.append_assoc]

/-- A row with another literal differs from the row behind its name only. -/
theorem line_withLiteral_eq_lead (hcomment : r.comment = []) (width : Nat) (literal : Text) :
    (r.withLiteral literal).line standard width =
      lead width r ++ (literal ++ standard.statementEnd) := by
  rw [line_withLiteral, Row.tail_of_comment_eq_nil hcomment, lead, List.append_assoc]

/-- A row without a comment ends behind its literal. -/
theorem line_eq_lead_of_comment_eq_nil (hcomment : r.comment = []) (width : Nat) :
    r.line standard width = lead width r ++ (r.literal ++ standard.statementEnd) :=
  line_withLiteral_eq_lead hcomment width r.literal

section Line

variable (hr : IsName r.name) (hcomment : r.comment = []) (hreturn : '\r' ∉ r.literal)

include hr

/-- The name of a line is found behind the indent. -/
theorem findAssignment?_line_alone (width : Nat) :
    findAssignment? r.name (r.line standard width) = some standard.indent.length := by
  have h : findAssignment? r.name (r.line standard width ++ []) = some standard.indent.length :=
    findAssignment?_line hr []
  rwa [List.append_nil] at h

/-- The unescaped quotes of a line from its name on. -/
theorem quotesFrom_line (width : Nat) :
    quotesFrom (r.line standard width) standard.indent.length =
      quotesWithin false (lead width r).length (r.literal ++ r.tail standard) := by
  have hindent : escapesNext false standard.indent = false := by decide
  rw [Row.line_eq, quotesFrom_append, hindent, (isSealed_header hr).quotesWithin_append, lead,
    List.length_append]

/-- The paired quotes of a line are those of its literal and of what follows it. -/
theorem boundaries_line (width stop : Nat) (composite : Bool) :
    boundaries (r.line standard width) standard.indent.length stop composite =
      boundariesFrom (r.line standard width) stop composite .outside
        (quotesWithin false (lead width r).length (r.literal ++ r.tail standard)) := by
  rw [boundaries, quotesFrom_line hr]

include hcomment hreturn

omit hcomment in
theorem find?_statementEnd_line (width : Nat) :
    Text.find? standard.statementEnd ((r.header width ++ r.literal) ++ standard.statementEnd) =
      some (r.header width ++ r.literal).length := by
  have hheader : '\r' ∉ r.header width :=
    notMem_header (hr.notMem_of_isBlank (by decide)) (by decide) (by decide)
  have hinfix : ¬ standard.statementEnd <:+: r.header width ++ r.literal :=
    not_statementEnd_infix (by simp [hheader, hreturn])
  have hfind := Text.find?_append_self (t := [])
    (semicolon_notMem_terminator isBlank_of_mem_lineTerminator) hinfix
  rwa [List.append_nil] at hfind

/-- The statement of a row on one line ends behind the literal. -/
theorem statementStop_line (width : Nat) :
    statementStop standard (r.line standard width) standard.indent.length =
      (lead width r).length + r.literal.length := by
  rw [line_eq_append_statementEnd width hcomment, statementStop_append,
    find?_statementEnd_line hr hreturn, Option.getD_some, lead, List.length_append,
    List.length_append, Nat.add_assoc]

/-- **Tidying leaves a row on one line as it is**, unless its literal holds a backtick or closes a
list behind a quote. -/
theorem tidy_line (hbacktick : escapeLead ∉ r.literal) (hclose : ¬ ['\x22', ')'] <:+ r.literal)
    (width : Nat) : tidy standard (r.line standard width) standard.indent.length =
      .ok (r.line standard width) := by
  have hheader : escapeLead ∉ r.header width :=
    notMem_header hr.backtick_notMem (by decide) (by decide)
  have htidy : IsTidy standard.lineTerminator
      (lead width r ++ r.literal ++ standard.statementEnd) :=
    isTidy_append_statementEnd (by simp [carriageReturn_notMem_lead hr width, hreturn])
  rw [line_eq_append_statementEnd width hcomment, tidy_append isBlank_of_mem_lineTerminator
    (find?_statementEnd_line hr hreturn width),
    openStatement_append hheader (getLast?_header width r), openStatement_eq_self hbacktick hclose]
  rw [lead, List.append_assoc standard.indent] at htidy
  rw [dropSeparators_of_isTidy htidy, List.append_assoc]

end Line

/-- **Stripping a block of one line.** Where tidying has nothing to change, the paired quotes are
deleted and nothing else happens. -/
theorem stripQuotes_line (hr : IsName r.name) (hcomment : r.comment = []) (hreturn : '\r' ∉ literal)
    (hbacktick : escapeLead ∉ literal) (hclose : ¬ ['\x22', ')'] <:+ literal)
    (hdelete : Text.deleteAt (boundaries (r.line standard width) standard.indent.length
      (statementStop standard (r.line standard width) standard.indent.length) true)
        (r.line standard width) = (r.withLiteral literal).line standard width) :
    stripQuotes standard true r.name (r.line standard width) =
      .ok ((r.withLiteral literal).line standard width) := by
  have htidy := tidy_line (r := r.withLiteral literal) hr hcomment hreturn hbacktick hclose width
  rw [stripQuotes, findAssignment?_line_alone hr]
  simp only
  cases hpaired : boundaries (r.line standard width) standard.indent.length
      (statementStop standard (r.line standard width) standard.indent.length) true with
  | nil =>
    rw [hpaired, Text.deleteAt_eq_deleteFrom,
      Text.deleteFrom_of_forall_notMem fun _ h => absurd h List.not_mem_nil] at hdelete
    exact congrArg _ hdelete
  | cons p ps =>
    rw [hpaired] at hdelete
    simp only [if_true]
    rw [hdelete, htidy]

/-! ### Single values -/

theorem textOf_singleton_withLiteral (settings : Settings) (r : Row) (literal : Text) :
    textOf settings [r.withLiteral literal] =
      (r.withLiteral literal).line settings (nameWidth settings [r]) := by
  have hwidth : nameWidth settings [r.withLiteral literal] = nameWidth settings [r] :=
    nameWidth_map_eq (by simp [Row.withLiteral])
  rw [textOf_eq_linesOf, hwidth, linesOf_cons, linesOf_nil, List.append_nil]

theorem textOf_singleton (settings : Settings) (r : Row) :
    textOf settings [r] = r.line settings (nameWidth settings [r]) :=
  textOf_singleton_withLiteral settings r r.literal

/-- The block of a single value that is neither null nor a comment and can be put in its line. -/
theorem writtenWith_singleton {P : Text → Prop} (hnull : nv.value.isNull = false)
    (hplain : nv.IsUncommented standard) (hliteral : nv.value.literalFault? = none)
    (h : P ((plainRow standard nv).line standard (nameWidth standard [plainRow standard nv]))) :
    WrittenWith {} (keyed [nv]) P := by
  refine writtenWith_plainRow (by simpa using ⟨hplain, hliteral⟩) ?_
  rwa [printed_singleton_of_not_isNull hnull hplain, List.map_singleton, textOf_singleton]

end ResourceScript.Unquote

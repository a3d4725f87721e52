import ResourceScript.Proofs.Stripping.Span
import ResourceScript.Proofs.Unquote.Composite

/-!
# Stripping a composite row

In the row of a text the two quotes of the literal are stripped, the text is opened, and the block
is tidied. A text in which only quotes had to be escaped is thereby given back, unless something in
it is mistaken for the end of the statement, for the beginning of a nested literal, for the end of a
list or for a stray separator.

## Main results

* `Unquote.stripQuotes_row_of_keepsQuotes`, `Unquote.stripQuotes_row_of_not_keepsQuotes`: what
  composite stripping makes of a row.
* `Unquote.stripQuotes_composite_render`: a written text is given back as it is.
-/

namespace ResourceScript.Unquote

open Text (IsName isBlank escapeLead)
open Settings (standard)
open Block

variable {settings : Settings} {width : Nat} {r : Row} {before : List Row} {body t rest : Text}

/-! ### Rows -/

theorem getLast?_header (width : Nat) (r : Row) : (r.header width).getLast? = some ' ' := by
  have hsplit : r.header width =
      (r.name ++ ' ' :: (List.replicate (width - r.name.length) ' ' ++ ['='])) ++ [' '] := by
    simp [Row.header]
  rw [hsplit, List.getLast?_concat]

/-- The first row is assigned at its own name. -/
theorem findAssignment?_line (hr : IsName r.name) (rest : Text) :
    findAssignment? r.name (r.line settings width ++ rest) = some settings.indent.length := by
  have hself : assignedRest? r.name true (r.line settings width ++ rest) = some _ :=
    assignedRest?_line_self hr
  have hline : r.line settings width ++ rest =
      settings.indent ++ (r.header width ++ (r.literal ++ (r.tail settings ++ rest))) := by
    simp [Row.line_eq]
  rw [hline] at hself ⊢
  exact findAssignment?_eq_length hself

section Rows

variable (hblank : ∀ c ∈ settings.lineTerminator, isBlank c) (hr : IsName r.name)
  (hcomment : r.comment = []) (hliteral : r.literal = '\x22' :: (body ++ ['\x22']))
  (hbody : IsSealed body)

include hcomment hliteral in
/-- The row of a text is a statement behind its indentation. -/
theorem line_eq_quotedStatement (rest : Text) : r.line settings width ++ rest =
    settings.indent ++ quotedStatement settings (r.header width) body rest := by
  rw [Row.line_eq, hliteral, Row.tail_of_comment_eq_nil hcomment, quotedStatement]
  simp

variable (hfind : findAssignment? r.name (linesOf settings width before ++
  (r.line settings width ++ rest)) =
    some ((linesOf settings width before).length + settings.indent.length))

include hblank hr hcomment hliteral hbody hfind

theorem stripQuotes_row_of_keepsQuotes (hkeep : KeepsQuotes settings body) :
    stripQuotes settings true r.name (linesOf settings width before ++
      (r.line settings width ++ rest)) =
        .ok (linesOf settings width before ++ (r.line settings width ++ rest)) := by
  rw [line_eq_quotedStatement hcomment hliteral, ← List.append_assoc, ← List.length_append] at hfind
  rw [line_eq_quotedStatement hcomment hliteral, ← List.append_assoc]
  exact stripQuotes_of_keepsQuotes hblank (isSealed_header hr) hbody
    (notMem_header hr.semicolon_notMem (by decide) (by decide))
    (escapesNext_linesOf_append_indent hblank before) hkeep hfind

/-- The text of a row that loses its quotes is opened, and the whole block is tidied. -/
theorem stripQuotes_row_of_not_keepsQuotes (hkeep : ¬ KeepsQuotes settings body) :
    stripQuotes settings true r.name (linesOf settings width before ++
      (r.line settings width ++ rest)) =
        .ok (dropSeparators settings.lineTerminator (linesOf settings width before ++
          ((r.withLiteral (openStatement settings body)).line settings width ++ rest))) := by
  rw [line_eq_quotedStatement hcomment hliteral, ← List.append_assoc, ← List.length_append] at hfind
  rw [line_eq_quotedStatement hcomment hliteral, ← List.append_assoc,
    stripQuotes_of_not_keepsQuotes hblank (isSealed_header hr) hbody
      (notMem_header hr.semicolon_notMem (by decide) (by decide))
      (escapesNext_linesOf_append_indent hblank before) (getLast?_header width r)
      (notMem_header hr.backtick_notMem (by decide) (by decide)) hkeep hfind,
    line_withLiteral, Row.tail_of_comment_eq_nil hcomment]
  simp

end Rows

/-! ### The default settings -/

theorem carriageReturn_notMem_lead (hr : IsName r.name) (width : Nat) : '\r' ∉ lead width r := by
  rw [lead, List.mem_append, not_or]
  exact ⟨by decide, notMem_header (hr.notMem_of_isBlank (by decide)) (by decide) (by decide)⟩

/-- The part of a line before its literal is passed over. -/
theorem dropSeparators_line (width : Nat) (hr : IsName r.name) (t : Text) :
    dropSeparators standard.lineTerminator (r.line standard width ++ t) = lead width r ++
      dropSeparators standard.lineTerminator (r.literal ++ (r.tail standard ++ t)) := by
  have hlast : (lead width r).getLast? = some ' ' := by
    rw [lead, List.getLast?_append_of_ne_nil _ (by simp [Row.header]), getLast?_header]
  rw [line_eq_lead]
  exact dropSeparators_append_of_notMem rfl (carriageReturn_notMem_lead hr width) hlast
    (by decide) _

theorem keepsQuotes_escape_iff {allowVariables : Bool} {s : Text} :
    KeepsQuotes standard (Text.escape allowVariables s) ↔ KeepsQuotes standard s := by
  have hplain : ∀ d ∈ ['=', ' '] ++ standard.statementEnd,
      Text.isSpecial allowVariables d = false := by
    simp only [statementEnd_standard, List.cons_append, List.nil_append, List.forall_mem_cons,
      List.not_mem_nil, false_implies, implies_true, and_true]
    cases allowVariables <;> decide
  rw [KeepsQuotes, KeepsQuotes,
    Text.infix_escape_iff fun d hd => hplain d (List.mem_append_right _ hd),
    Text.suffix_escape_iff fun d hd => hplain d (List.mem_singleton.mp hd ▸ List.mem_cons_self),
    Text.suffix_escape_iff fun d hd => hplain d (List.mem_append_left _ hd)]

variable {nv : NamedValue}

/-- A single value that is neither null nor a comment is printed. -/
theorem printed_singleton_of_not_isNull (hnull : nv.value.isNull = false)
    (hplain : nv.IsUncommented standard) : printed standard (keyed [nv]) = [nv] := by
  simp [printed, surviving, keyed, Entries.ofList, Entries.set, hnull, hplain.not_metadata]

theorem printed_singleton (hnv : nv.IsText) (hplain : nv.IsUncommented standard) :
    printed standard (keyed [nv]) = [nv] :=
  printed_singleton_of_not_isNull (by rw [hnv.value_eq]; rfl) hplain

/-- **A composite value is given back.** A text in which nothing but quotes has to be escaped is
written escaped and between quotes; composite stripping then leaves the text itself, unless it holds
a statement end or a stray separator, or ends in a sign that is mistaken for one of a literal. -/
theorem stripQuotes_composite_render (hnv : nv.IsText) (hplain : nv.IsUncommented standard)
    (hspecial : EscapesQuotesOnly nv.quoting.allowVariables nv.text)
    (hkeep : ¬ KeepsQuotes standard nv.text) (hclose : ¬ ['\x22', ')'] <:+ nv.text)
    (htidy : IsTidy standard.lineTerminator (nv.text ++ standard.statementEnd)) :
    WrittenWith {} (keyed [nv]) fun block =>
      block = textOf standard [plainRow standard nv] ∧
      stripQuotes standard true nv.name block =
        .ok (textOf standard [(plainRow standard nv).withLiteral nv.text]) := by
  set own := plainRow standard nv with hown
  have hname : IsName own.name := hnv.isName
  have hcomment : own.comment = [] := comment_plainRow hplain
  have hliteral : own.literal =
      '\x22' :: (Text.escape nv.quoting.allowVariables nv.text ++ ['\x22']) := hnv.literal_eq {}
  have hopen : openStatement standard (Text.escape nv.quoting.allowVariables nv.text) = nv.text :=
    openStatement_escape hspecial hclose
  have hwidth : nameWidth standard [own.withLiteral nv.text] = nameWidth standard [own] :=
    nameWidth_map_eq (by simp [Row.withLiteral])
  set width := nameWidth standard [own]
  have hfind : findAssignment? own.name (linesOf standard width [] ++
      (own.line standard width ++ [])) =
        some ((linesOf standard width []).length + standard.indent.length) := by
    rw [linesOf_nil, List.length_nil, Nat.zero_add]
    exact findAssignment?_line hname []
  have hsettled : dropSeparators standard.lineTerminator
      ((own.withLiteral nv.text).line standard width ++ []) =
        (own.withLiteral nv.text).line standard width ++ [] := by
    have htail : (own.withLiteral nv.text).tail standard = standard.statementEnd :=
      Row.tail_of_comment_eq_nil hcomment
    rw [dropSeparators_line width (r := own.withLiteral nv.text) hname, line_eq_lead, htail,
      List.append_nil]
    exact congrArg _ (dropSeparators_of_isTidy htidy)
  refine writtenWith_plainRow (by simpa using ⟨hplain, hnv.literalFault?_eq_none⟩) ?_
  rw [printed_singleton hnv hplain, List.map_singleton, ← hown]
  refine ⟨rfl, ?_⟩
  rw [textOf_eq_linesOf, textOf_eq_linesOf, hwidth]
  have hrow := stripQuotes_row_of_not_keepsQuotes isBlank_of_mem_lineTerminator hname hcomment
    hliteral (isSealed_escape _ _) hfind (mt keepsQuotes_escape_iff.mp hkeep)
  rw [hopen, linesOf_nil, List.nil_append, List.nil_append, hsettled] at hrow
  exact hrow

/-- A text on several lines with nested quotes, one of them before a comma. -/
theorem stripQuotes_composite_render_nested :
    let t := "Rule\x7b\r\n  Key = \"a\";\n  Of = @(\"b\",\r\n\"$c\")\r\n\x7d".toList
    let nv : NamedValue :=
      { name := ['N'], value := .text t, quoting := { allowVariables := true } }
    WrittenWith {} (keyed [nv]) fun block =>
      block = textOf standard [plainRow standard nv] ∧
      stripQuotes standard true ['N'] block =
        .ok (textOf standard [(plainRow standard nv).withLiteral t]) := by
  intro t nv
  exact stripQuotes_composite_render (by decide) (by decide) (by decide) (by decide) (by decide)
    (by decide)

end ResourceScript.Unquote

import ResourceScript.Proofs.Stripping.Line
import ResourceScript.Proofs.Unquote.Nesting

/-!
# A body with nested fields

A body that is written without escaping may quote its own fields. When an equals sign introduces
each of them, composite stripping passes over all fields, however many there are, and takes the
quote behind the body for the closing one. The body then stands in the row as it was given.

## Main results

* `Unquote.boundaries_line_withFields`: the paired quotes are those around the body.
* `Unquote.stripQuotes_withFields`: the body loses the quotes around it and nothing else.
-/

namespace ResourceScript.Unquote

open Text (IsName escapeLead)
open Settings (standard)
open Block

variable {fields : List (Text × Text)} {rest : Text} {r : Row} {nv : NamedValue} {c : Char}

theorem mem_withFields_iff (hc : c ≠ '\x22') : c ∈ withFields fields rest ↔
    (∃ f ∈ fields, c ∈ f.1 ∨ c ∈ f.2) ∨ c ∈ rest := by
  induction fields with
  | nil => simp [withFields]
  | cons f fields ih =>
    obtain ⟨lead, field⟩ := f
    simp [withFields, hc, ih, or_assoc]

/-- A body without a backtick has sealed parts. -/
theorem isSealed_parts (hbacktick : escapeLead ∉ withFields fields rest)
    (hfields : ∀ f ∈ fields, '\x22' ∉ f.1 ∧ OpensField f.1 ∧ '\x22' ∉ f.2)
    (hrest : '\x22' ∉ rest) :
    (∀ f ∈ fields, IsSealed f.1 ∧ OpensField f.1 ∧ IsSealed f.2) ∧ IsSealed rest := by
  rw [mem_withFields_iff (by decide), not_or] at hbacktick
  obtain ⟨hnone, hnorest⟩ := hbacktick
  refine ⟨fun f hf => ?_, isSealed_of_notMem hrest hnorest⟩
  obtain ⟨hlead, hopens, hfield⟩ := hfields f hf
  have hnofield : escapeLead ∉ f.1 ∧ escapeLead ∉ f.2 :=
    not_or.mp fun h => hnone ⟨f, hf, h⟩
  exact ⟨isSealed_of_notMem hlead hnofield.1, hopens, isSealed_of_notMem hfield hnofield.2⟩

/-- The paired quotes of the row of a body with nested fields are those around the body. -/
theorem boundaries_line_withFields (hr : IsName r.name) (hcomment : r.comment = [])
    (hliteral : r.literal = '\x22' :: (withFields fields rest ++ ['\x22']))
    (hreturn : '\r' ∉ withFields fields rest) (hbacktick : escapeLead ∉ withFields fields rest)
    (hfields : ∀ f ∈ fields, '\x22' ∉ f.1 ∧ OpensField f.1 ∧ '\x22' ∉ f.2)
    (hrest : '\x22' ∉ rest) (hend : ¬ OpensField rest) (width : Nat) :
    boundaries (r.line standard width) standard.indent.length
        (statementStop standard (r.line standard width) standard.indent.length) true =
      [(lead width r).length, (lead width r).length + 1 + (withFields fields rest).length] := by
  set body := withFields fields rest with hbody
  have hreturn' : '\r' ∉ r.literal := by simp [hliteral, hreturn]
  have hline : r.line standard width =
      lead width r ++ '\x22' :: (body ++ '\x22' :: standard.statementEnd) := by
    rw [line_eq_lead_of_comment_eq_nil hcomment, hliteral]
    simp
  have hquotes : quotesWithin false (lead width r).length (r.literal ++ r.tail standard) =
      (lead width r).length :: quotesWithin false ((lead width r).length + 1)
        (body ++ '\x22' :: standard.statementEnd) := by
    rw [Row.tail_of_comment_eq_nil hcomment, hliteral]
    simp [quotesWithin]
  obtain ⟨hfields', hrest'⟩ := isSealed_parts hbacktick hfields hrest
  have hstop : statementStop standard (r.line standard width) standard.indent.length =
      (lead width r).length + 1 + body.length + 1 := by
    rw [statementStop_line hr hcomment hreturn', hliteral]
    simp
    omega
  -- behind the closing quote there is no other one
  have hopened : boundariesFrom
      (lead width r ++ '\x22' :: (body ++ '\x22' :: standard.statementEnd))
      ((lead width r).length + 1 + body.length + 1) true (.opened (lead width r).length)
      (quotesWithin false ((lead width r).length + 1) (body ++ '\x22' :: standard.statementEnd)) =
        [(lead width r).length, (lead width r).length + 1 + body.length] :=
    boundariesFrom_opened_withFields hrest' hend hfields' (Nat.le_succ _)
  rw [boundaries_line hr, hquotes, hstop, hline, boundariesFrom_outside_eq (by omega) ?_, hopened]
  rw [hopened]
  exact List.cons_ne_nil _ _

/-- **Nested fields keep their quotes.** Composite stripping of a body that is written without
escaping and in which each quoted field stands behind an equals sign deletes the two quotes around
the body and nothing else, for any number of fields. -/
theorem stripQuotes_withFields (hname : IsName nv.name) (hplain : nv.IsUncommented standard)
    (hkind : nv.kind = none) (hescape : nv.quoting.noEscape)
    (hvalue : nv.value = .text (withFields fields rest))
    (hfields : ∀ f ∈ fields, '\x22' ∉ f.1 ∧ OpensField f.1 ∧ '\x22' ∉ f.2)
    (hrest : '\x22' ∉ rest) (hend : ¬ OpensField rest)
    (hreturn : '\r' ∉ withFields fields rest) (hbacktick : escapeLead ∉ withFields fields rest)
    (hclose : ¬ ['\x22', ')'] <:+ withFields fields rest) :
    WrittenWith {} (keyed [nv]) fun block =>
      block = textOf standard
        [(plainRow standard nv).withLiteral ('\x22' :: (withFields fields rest ++ ['\x22']))] ∧
      stripQuotes standard true nv.name block =
        .ok (textOf standard [(plainRow standard nv).withLiteral (withFields fields rest)]) := by
  set body := withFields fields rest with hbody
  set own := plainRow standard nv with hown
  have hr : IsName own.name := hname
  have hcomment : own.comment = [] := comment_plainRow hplain
  have hliteral : own.literal = '\x22' :: (body ++ ['\x22']) := by
    have h : own.literal = nv.quoting.quote body := NamedValue.literal_of_text hkind hvalue
    rw [h, Quoting.quote, Quoting.body, if_pos hescape]
  refine writtenWith_singleton (by rw [hvalue]; rfl) hplain (by rw [hvalue]; rfl) ?_
  rw [← hown, ← hliteral]
  refine ⟨(textOf_singleton standard own).symm, ?_⟩
  rw [textOf_singleton_withLiteral]
  refine stripQuotes_line hr hcomment hreturn hbacktick hclose ?_
  rw [boundaries_line_withFields hr hcomment hliteral hreturn hbacktick hfields hrest hend]
  rw [line_eq_lead_of_comment_eq_nil hcomment, line_withLiteral_eq_lead hcomment, hliteral]
  simpa using Text.deleteAt_pair (lead (nameWidth standard [own]) own) body standard.statementEnd
    '\x22' '\x22'

/-- Two fields in two spellings, of which the second one is empty. -/
theorem stripQuotes_withFields_rule :
    let body := "Rule\x7b Name=\"x y\"; Mode = \"\" \x7d".toList
    let nv : NamedValue := { name := ['N'], value := .text body, quoting := { noEscape := true } }
    WrittenWith {} (keyed [nv]) fun block =>
      block = textOf standard [(plainRow standard nv).withLiteral ('\x22' :: (body ++ ['\x22']))] ∧
      stripQuotes standard true ['N'] block =
        .ok (textOf standard [(plainRow standard nv).withLiteral body]) := by
  intro body nv
  let fields := [("Rule\x7b Name=".toList, "x y".toList), ("; Mode = ".toList, [])]
  have hbody : body = withFields fields " \x7d".toList := by decide
  have hvalue : nv.value = .text (withFields fields " \x7d".toList) := congrArg Value.text hbody
  rw [hbody]
  exact stripQuotes_withFields (by decide) (by decide) rfl rfl hvalue (by decide) (by decide)
    (by decide) (by decide) (by decide) (by decide)

end ResourceScript.Unquote

import ResourceScript.Proofs.Stripping.Span

/-!
# What a statement strips

A statement strips pairs of quotes up to its end, so that its first two quotes and its end decide
whether it strips anything in a stretch of the text. The statement of a row strips the quotes of the
literal. It strips quotes of other lines only when it is still open behind its own line and the next
line begins with quotes that it pairs up.

## Main definitions

* `Unquote.StripsWithin`: a statement strips quotes of one stretch of the text only.
* `Unquote.Overruns`: the statement of a row strips a quote of the next row.

## Main results

* `Unquote.stripsWithin_append_iff`: a statement may as well begin behind a part without quotes.
* `Unquote.ownRow_iff`: the statement of a row stays in its own line unless it overruns.
-/

namespace ResourceScript.Unquote

open Settings (standard)
open Block

/-- The statement that begins behind `u` strips quotes of one stretch of the text only. -/
def StripsWithin (u x : Text) (lo hi : Nat) : Prop :=
  ∀ p ∈ boundaries (u ++ x) u.length (statementStop standard (u ++ x) u.length) false,
    lo ≤ p ∧ p < hi

/-- The statement of a row goes on behind its line and strips a quote of the next row. -/
def Overruns (r : Row) (after : List Row) : Prop :=
  ¬ standard.statementEnd <:+: r.literal ∧ ¬ r.IsClosed ∧ ∃ next ∈ after.head?,
    ¬ (Even (quotes r.comment).length ∧ standard.statementEnd <:+: next.literal)

variable {u v x : Text} {lo hi first last : Nat} {rest : List Nat}

/-! ### The first two quotes of a statement -/

theorem boundaries_eq (hu : escapesNext false u = false) :
    boundaries (u ++ x) u.length (statementStop standard (u ++ x) u.length) false =
      boundariesFrom (u ++ x) (u.length + statementLength x) false .outside
        (quotesWithin false u.length x) := by
  rw [boundaries, quotesFrom_append, hu, statementStop_append]
  rfl

section Statement

variable (hu : escapesNext false u = false)

include hu

theorem stripsWithin_iff : StripsWithin u x lo hi ↔
    ∀ p ∈ boundariesFrom (u ++ x) (u.length + statementLength x) false .outside
      (quotesWithin false u.length x), lo ≤ p ∧ p < hi := by
  rw [StripsWithin, boundaries_eq hu]

/-- No statement strips anything before its beginning or behind the text. -/
theorem stripsWithin_length : StripsWithin u x u.length (u.length + x.length) := by
  rw [stripsWithin_iff hu, ← List.length_append]
  intro p hp
  refine lt_length_of_mem_boundariesFrom (fun q hq => ?_) hp
  obtain ⟨hle, hlt, -⟩ := of_mem_quotesWithin hq
  exact ⟨hle, List.length_append ▸ hlt⟩

/-- No statement strips anything behind its end. -/
theorem stripsWithin_of_length_lt (h : u.length + statementLength x < hi) :
    StripsWithin u x u.length hi := by
  intro p hp
  have hstop := (of_mem_boundariesFrom (boundaries_eq hu ▸ hp)).1
  exact ⟨(stripsWithin_length hu p hp).1, Nat.lt_of_le_of_lt hstop h⟩

/-- A statement that ends before its first quote strips nothing. -/
theorem stripsWithin_of_le (hquotes : quotesWithin false u.length x = first :: rest)
    (h : u.length + statementLength x ≤ first) : StripsWithin u x lo hi := by
  rw [stripsWithin_iff hu, hquotes, boundariesFrom_eq_nil_of_le (by simpa using h)]
  exact fun p hp => absurd hp List.not_mem_nil

/-- A statement that ends before its second quote strips nothing. -/
theorem stripsWithin_of_lt (hquotes : quotesWithin false u.length x = first :: last :: rest)
    (h : u.length + statementLength x < last) : StripsWithin u x lo hi := by
  rw [stripsWithin_iff hu, hquotes, boundariesFrom_eq_nil_of_lt h]
  exact fun p hp => absurd hp List.not_mem_nil

/-- A statement that does not end before its second quote strips its first one. -/
theorem not_stripsWithin (hquotes : quotesWithin false u.length x = first :: last :: rest)
    (hfirst : first < u.length + statementLength x) (hlast : last ≤ u.length + statementLength x)
    (hlo : first < lo) : ¬ StripsWithin u x lo hi := by
  rw [stripsWithin_iff hu, hquotes, boundariesFrom_pair hfirst hlast]
  intro h
  exact absurd (h first List.mem_cons_self).1 (Nat.not_le.mpr hlo)

/-- A statement may as well begin behind a part of it without quotes. -/
theorem stripsWithin_append_iff (hv : escapesNext false v = false)
    (hquotes : quotesWithin false u.length v = [])
    (hlength : statementLength (v ++ x) = v.length + statementLength x) :
    StripsWithin u (v ++ x) lo hi ↔ StripsWithin (u ++ v) x lo hi := by
  have huv : escapesNext false (u ++ v) = false := by rw [escapesNext_append, hu, hv]
  rw [stripsWithin_iff hu, stripsWithin_iff huv, quotesWithin_append, hquotes, hv, hlength,
    List.nil_append, List.append_assoc, List.length_append, Nat.add_assoc]

end Statement

/-! ### The statement of the own row -/

variable {r : Row} {after : List Row} {width : Nat}

/-- A statement that does not end in its own line strips quotes of that line only, unless one of the
next row is paired with the last quote of the line or with the other quote of the next row. -/
theorem ownRow_iff_of_open (hu : escapesNext false u = false) (hr : IsTextRow r)
    (hafter : ∀ next ∈ after, IsTextRow next) (hliteral : ¬ standard.statementEnd <:+: r.literal)
    (hclosed : ¬ r.IsClosed) :
    StripsWithin u (r.line standard width ++ linesOf standard width after) u.length
      (u.length + (r.line standard width).length) ↔ ¬ Overruns r after := by
  cases after with
  | nil =>
    rw [linesOf_nil, List.append_nil]
    exact iff_of_true (stripsWithin_length hu) fun h => by simpa using h.2.2
  | cons next after =>
    set line := r.line standard width with hline
    set t := linesOf standard width (next :: after) with ht
    have hstop : u.length + statementLength (line ++ t) =
        u.length + line.length + statementLength t := by
      rw [hline, statementLength_line hr.isName, statementLength_literal hr hliteral,
        statementLength_tail_of_not_isClosed hr hclosed, length_line]
      omega
    obtain ⟨first, last, rest, hfirst, hlt, hle, -, hin, hout⟩ := exists_quotesWithin_line
      (hafter next List.mem_cons_self) width (u.length + line.length) (linesOf standard width after)
    rw [← linesOf_cons, ← ht] at hfirst hlt hin hout
    have hown : ∀ q ∈ quotesWithin false u.length line,
        u.length ≤ q ∧ q < u.length + line.length := fun q hq =>
      ⟨(of_mem_quotesWithin hq).1, (of_mem_quotesWithin hq).2.1⟩
    have hbefore : ∀ q ∈ quotesWithin false u.length line,
        q < u.length + line.length + statementLength t := fun q hq =>
      Nat.lt_of_lt_of_le (hown q hq).2 (Nat.le_add_right _ _)
    have hoverruns : Overruns r (next :: after) ↔
        ¬ (Even (quotesWithin false u.length line).length ∧
          standard.statementEnd <:+: next.literal) := by
      simp [Overruns, hliteral, hclosed, even_quotesWithin_line hr, hline]
    rw [hoverruns, not_not, stripsWithin_iff hu, hstop, quotesWithin_append, hline,
      escapesNext_line, ← hline, hfirst]
    by_cases heven : Even (quotesWithin false u.length line).length
    · rw [boundariesFrom_append heven hbefore]
      by_cases hends : standard.statementEnd <:+: next.literal
      · rw [boundariesFrom_eq_nil_of_lt (hin hends), List.append_nil]
        exact iff_of_true hown ⟨heven, hends⟩
      · refine iff_of_false (fun h => ?_) fun h => hends h.2
        rw [boundariesFrom_pair hlt (hout hends)] at h
        exact absurd (h first (by simp)).2 (Nat.not_lt.mpr hle)
    · refine iff_of_false (fun h => ?_) fun h => heven h.1
      have hpaired := h first (mem_boundariesFrom_of_odd heven hbefore hlt.le)
      exact absurd hpaired.2 (Nat.not_lt.mpr hle)

/-- **The statement of the own row.** It strips quotes of its own line only, unless it overruns. -/
theorem ownRow_iff (hu : escapesNext false u = false) (hr : IsTextRow r)
    (hafter : ∀ next ∈ after, IsTextRow next) :
    StripsWithin u (r.line standard width ++ linesOf standard width after) u.length
      (u.length + (r.line standard width).length) ↔ ¬ Overruns r after := by
  by_cases hends : standard.statementEnd <:+: r.literal ∨ r.IsClosed
  · -- the statement ends in its own line
    refine iff_of_true (stripsWithin_of_length_lt hu ?_) fun h => hends.elim h.1 h.2.1
    set t := linesOf standard width after
    have hlength := length_line width r
    have hline := statementLength_line hr.isName width t
    by_cases hliteral : standard.statementEnd <:+: r.literal
    · have := statementLength_append_of_infix (t := r.tail standard ++ t) hliteral
      omega
    · have := statementLength_literal (t := r.tail standard ++ t) hr hliteral
      have := statementLength_tail_of_isClosed (t := t) hr (hends.resolve_left hliteral)
      omega
  · rw [not_or] at hends
    exact ownRow_iff_of_open hu hr hafter hends.1 hends.2

end ResourceScript.Unquote

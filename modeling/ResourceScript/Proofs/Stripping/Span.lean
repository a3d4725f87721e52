import ResourceScript.Proofs.Stripping.Row

/-!
# How far a statement reaches

With the default settings a statement ends at a semicolon that stands before the line terminator. A
comment separates the two, so the statement of a row with a comment reaches into the next rows, up
to the first text that holds a statement end, unless the comment itself ends with a semicolon.

## Main definitions

* `Unquote.statementLength`: the length of the statement that begins a text.
* `Unquote.IsTextRow`: the rows with a quoted text and a comment on one line.
* `Block.Row.IsClosed`: the rows of which the line ends a statement.

## Main results

* `Unquote.statementLength_tail_of_isClosed`, `Unquote.statementLength_tail_of_not_isClosed`: where
  the statement of a row ends that its literal does not end.
* `Unquote.quotesWithin_line`, `Unquote.quotesWithin_tail`: the unescaped quotes of a line.
-/

namespace ResourceScript

/-- The line of a row ends a statement: it has no comment, or one that ends with a semicolon. -/
def Block.Row.IsClosed (r : Block.Row) : Prop := r.comment = [] ∨ r.comment.getLast? = some ';'

instance (r : Block.Row) : Decidable r.IsClosed := inferInstanceAs (Decidable (_ ∨ _))

namespace Unquote

open Text (IsName isBlank)
open Settings (standard)
open Block

/-- The length of the statement that begins a text. -/
def statementLength (s : Text) : Nat := (Text.find? standard.statementEnd s).getD s.length

variable {r : Row} {width pos : Nat} {s t : Text} {c : Char}

/-! ### Statements part by part -/

theorem lineTerminator_standard : standard.lineTerminator = ['\r', '\n'] := rfl

theorem statementEnd_standard : standard.statementEnd = [';', '\r'] ++ ['\n'] := rfl

theorem isBlank_of_mem_lineTerminator : ∀ c ∈ standard.lineTerminator, isBlank c :=
  List.all_eq_true.mp (by decide)

theorem statementEnd_ne_nil : standard.statementEnd ≠ [] := List.cons_ne_nil _ _

theorem statementLength_append_of_infix (h : standard.statementEnd <:+: s) :
    statementLength (s ++ t) + 3 ≤ s.length := by
  cases hfind : Text.find? standard.statementEnd s with
  | none => exact absurd h ((Text.find?_eq_none_iff statementEnd_ne_nil).mp hfind)
  | some n =>
    rw [statementLength, Text.find?_append_of_eq_some statementEnd_ne_nil hfind, Option.getD_some]
    exact Text.find?_add_length_le statementEnd_ne_nil hfind

theorem statementLength_append_of_notMem (h : ';' ∉ s) :
    statementLength (s ++ t) = s.length + statementLength t := by
  have hfind : Text.find? standard.statementEnd (s ++ t) =
      (Text.find? standard.statementEnd t).map (· + s.length) := Text.find?_append_of_notMem h
  rw [statementLength, statementLength, hfind, List.length_append]
  cases Text.find? standard.statementEnd t with
  | none => rfl
  | some n => exact Nat.add_comm n s.length

theorem statementLength_append_cons (hc : c ∉ standard.statementEnd)
    (h : ¬ standard.statementEnd <:+: s) :
    statementLength (s ++ c :: t) = s.length + statementLength (c :: t) := by
  rw [statementLength, statementLength, Text.find?_append_cons statementEnd_ne_nil hc,
    (Text.find?_eq_none_iff statementEnd_ne_nil).mpr h, Option.none_or, List.length_append]
  cases Text.find? standard.statementEnd (c :: t) with
  | none => rfl
  | some n => exact Nat.add_comm n s.length

theorem statementLength_append_quote (h : ¬ standard.statementEnd <:+: s) :
    statementLength (s ++ '\x22' :: t) = s.length + 1 + statementLength t := by
  have hstep : statementLength ('\x22' :: t) = 1 + statementLength t :=
    statementLength_append_of_notMem (s := ['\x22']) (by decide)
  rw [statementLength_append_cons (by decide) h, hstep, Nat.add_assoc]

theorem statementLength_append_lineFeed (h : ¬ standard.statementEnd <:+: s ++ ['\n']) :
    statementLength (s ++ '\n' :: t) = s.length + 1 + statementLength t := by
  have hfind : Text.find? standard.statementEnd (s ++ '\n' :: t) =
      (Text.find? standard.statementEnd t).map (· + (s.length + 1)) := by
    have hnone := (Text.find?_eq_none_iff statementEnd_ne_nil).mpr h
    rw [statementEnd_standard] at hnone ⊢
    rw [Text.find?_concat_append_cons (by simp) (by decide), hnone, Option.none_or]
  rw [statementLength, statementLength, hfind]
  cases Text.find? standard.statementEnd t with
  | none => simp; omega
  | some n => exact Nat.add_comm n (s.length + 1)

theorem statementLength_append_statementEnd (h : '\n' ∉ s) :
    statementLength (s ++ (standard.statementEnd ++ t)) = s.length := by
  suffices Text.find? standard.statementEnd (s ++ (standard.statementEnd ++ t)) = some s.length by
    rw [statementLength, this, Option.getD_some]
  induction s with
  | nil => exact Text.find?_self_append statementEnd_ne_nil
  | cons c s ih =>
    simp only [List.mem_cons, not_or] at h
    have hnot : ¬ standard.statementEnd <+: c :: (s ++ (standard.statementEnd ++ t)) := by
      rintro ⟨u, hu⟩
      -- the line feed of the searched text would stand in `s`, or before the end of the found one
      rcases s with _ | ⟨d, _ | ⟨e, s⟩⟩
      · simp [statementEnd_standard] at hu
      · simp [statementEnd_standard] at hu
      · have he := congrArg (·[2]?) hu
        simp [statementEnd_standard] at he
        exact h.2 (by simp [← he])
    rw [List.cons_append, Text.find?_cons_succ hnot, ih h.2]
    rfl

/-- A line that does not end with a semicolon is passed over. -/
theorem statementLength_append_lineTerminator (h : '\n' ∉ s) (hlast : s.getLast? ≠ some ';') :
    statementLength (s ++ '\r' :: '\n' :: t) = s.length + 2 + statementLength t := by
  have hnot : ¬ standard.statementEnd <:+: s ++ ['\r'] ++ ['\n'] := by
    rintro ⟨x, y, hxy⟩
    rcases List.eq_nil_or_concat' y with rfl | ⟨y, e, rfl⟩
    · rw [List.append_nil, statementEnd_standard, ← List.append_assoc] at hxy
      have hxy' := List.append_inj_left' hxy rfl
      rw [show [';', '\r'] = [';'] ++ ['\r'] from rfl, ← List.append_assoc] at hxy'
      rw [← List.append_inj_left' hxy' rfl, List.getLast?_concat] at hlast
      exact hlast rfl
    · rw [← List.append_assoc] at hxy
      have hxy' := List.append_inj_left' hxy rfl
      have hmem : '\n' ∈ s ++ ['\r'] := hxy' ▸ by simp [statementEnd_standard]
      simp [h] at hmem
  have hstep := statementLength_append_lineFeed (t := t) hnot
  rw [List.append_assoc, List.singleton_append] at hstep
  rw [hstep, List.length_append, List.length_singleton]

/-! ### Rows with comments -/

/-- A row with a quoted text and a comment on one line. -/
structure IsTextRow (r : Row) : Prop where
  isName : IsName r.name
  literal_eq : ∃ body, IsSealed body ∧ r.literal = '\x22' :: (body ++ ['\x22'])
  lineFeed_notMem : '\n' ∉ r.comment

/-- The part of a line before its literal. -/
def lead (width : Nat) (r : Row) : Text := standard.indent ++ r.header width

theorem line_eq_lead (width : Nat) (r : Row) (t : Text) : r.line standard width ++ t =
    lead width r ++ (r.literal ++ (r.tail standard ++ t)) := by
  simp [Row.line_eq, lead]

theorem statementLength_tail_of_isClosed (hr : IsTextRow r) (h : r.IsClosed) :
    statementLength (r.tail standard ++ t) + 3 = (r.tail standard).length := by
  rcases h with h | h
  · rw [Row.tail_of_comment_eq_nil h]
    have hlength := statementLength_append_statementEnd (t := t) (List.not_mem_nil (a := '\n'))
    rw [List.nil_append] at hlength
    rw [hlength]
    rfl
  · obtain ⟨u, hu⟩ := List.getLast?_eq_some_iff.mp h
    have htail : r.tail standard = ';' :: ' ' :: u ++ standard.statementEnd := by
      simp [Row.tail, hu, statementEnd_standard, lineTerminator_standard]
    have hline : '\n' ∉ ';' :: ' ' :: u := by
      have := hr.lineFeed_notMem
      simp_all
    rw [htail, List.append_assoc, statementLength_append_statementEnd hline, List.length_append]
    rfl

theorem statementLength_tail_of_not_isClosed (hr : IsTextRow r) (h : ¬ r.IsClosed) :
    statementLength (r.tail standard ++ t) = (r.tail standard).length + statementLength t := by
  rw [Row.IsClosed, not_or] at h
  obtain ⟨u, d, hu⟩ := (List.eq_nil_or_concat' r.comment).resolve_left h.1
  have htail : r.tail standard = (';' :: ' ' :: r.comment) ++ ['\r', '\n'] := by
    simp [Row.tail, h.1, lineTerminator_standard]
  have hline : '\n' ∉ ';' :: ' ' :: r.comment := by simp [hr.lineFeed_notMem]
  have hlast : (';' :: ' ' :: r.comment).getLast? ≠ some ';' := by
    rw [hu, List.getLast?_concat] at h
    rw [hu, ← List.cons_append, ← List.cons_append, List.getLast?_concat]
    exact h.2
  have hstep := statementLength_append_lineTerminator (t := t) hline hlast
  rw [htail, List.append_assoc, List.length_append]
  exact hstep

/-- The statement that begins with a line passes the part before the literal. -/
theorem statementLength_line (hr : IsName r.name) (width : Nat) (t : Text) :
    statementLength (r.line standard width ++ t) =
      (lead width r).length + statementLength (r.literal ++ (r.tail standard ++ t)) := by
  have hlead : ';' ∉ lead width r := by
    rw [lead, List.mem_append, not_or]
    exact ⟨by decide, notMem_header hr.semicolon_notMem (by decide) (by decide)⟩
  rw [line_eq_lead, statementLength_append_of_notMem hlead]

theorem statementLength_literal (hr : IsTextRow r) (h : ¬ standard.statementEnd <:+: r.literal) :
    statementLength (r.literal ++ t) = r.literal.length + statementLength t := by
  obtain ⟨body, -, hliteral⟩ := hr.literal_eq
  have hbody : ¬ standard.statementEnd <:+: '\x22' :: body := fun hb =>
    h (hliteral ▸ hb.trans (List.infix_append' [] ('\x22' :: body) ['\x22']))
  rw [hliteral, ← List.cons_append, List.append_assoc, List.singleton_append,
    statementLength_append_quote hbody, List.length_append, List.length_singleton]

/-! ### Quotes of a line -/

theorem isSealed_lead (hr : IsName r.name) (width : Nat) : IsSealed (lead width r) :=
  (isSealed_of_notMem (by decide) (by decide)).append (isSealed_header hr)

/-- The first two unescaped quotes of a line are those of its literal. -/
theorem quotesWithin_line (hr : IsTextRow r) (width pos : Nat) (t : Text) :
    quotesWithin false pos (r.line standard width ++ t) =
      (pos + (lead width r).length) ::
        (pos + (lead width r).length + r.literal.length - 1) ::
          quotesWithin false (pos + (lead width r).length + r.literal.length)
            (r.tail standard ++ t) := by
  obtain ⟨body, hbody, hliteral⟩ := hr.literal_eq
  have hlength : r.literal.length = body.length + 2 := by simp [hliteral]
  have hlast (p : Nat) : p + 1 + body.length = p + (body.length + 2) - 1 := by omega
  have hnext (p : Nat) : p + 1 + body.length + 1 = p + (body.length + 2) := by omega
  rw [line_eq_lead, (isSealed_lead hr.isName width).quotesWithin_append, hlength, hliteral,
    List.cons_append, List.append_assoc, List.singleton_append, hbody.quotesWithin_quoted, hnext,
    hlast]

theorem quotesWithin_lineTerminator (odd : Bool) (pos : Nat) (t : Text) :
    quotesWithin odd pos ('\r' :: '\n' :: t) = quotesWithin false (pos + 2) t := by
  simp [quotesWithin, Text.escapeLead]

/-- The unescaped quotes behind the literal of a line are those of its comment. -/
theorem quotesWithin_tail (r : Row) (pos : Nat) (t : Text) :
    quotesWithin false pos (r.tail standard ++ t) = quotesWithin false (pos + 2) r.comment ++
      quotesWithin false (pos + (r.tail standard).length) t := by
  rw [Row.tail, lineTerminator_standard]
  cases r.comment with
  | nil => exact quotesWithin_lineTerminator false (pos + 1) t
  | cons c s =>
    have hhead : quotesWithin false pos (';' :: ' ' :: (c :: s ++ '\r' :: '\n' :: t)) =
        quotesWithin false (pos + 2) (c :: s ++ '\r' :: '\n' :: t) := by
      simp [quotesWithin, Text.escapeLead]
    have htext : ';' :: ((if (c :: s).isEmpty then [] else ' ' :: c :: s) ++ ['\r', '\n']) ++ t =
        ';' :: ' ' :: (c :: s ++ '\r' :: '\n' :: t) := by simp
    rw [htext, hhead, quotesWithin_append, quotesWithin_lineTerminator]
    refine congrArg (quotesWithin false (pos + 2) (c :: s) ++ quotesWithin false · t) ?_
    simp
    omega

/-- Quotes of a comment stand before the end of its line. -/
theorem lt_of_mem_quotesWithin_comment {k : Nat} (h : k ∈ quotesWithin false (pos + 2) r.comment) :
    pos < k ∧ k + 2 < pos + (r.tail standard).length := by
  obtain ⟨hle, hlt, -⟩ := of_mem_quotesWithin h
  have hlength : (r.tail standard).length = 2 + r.comment.length + 2 := by
    rw [Row.tail, lineTerminator_standard]
    cases hc : r.comment with
    | nil => simp [hc, quotesWithin] at h
    | cons c s => simp; omega
  omega

theorem length_line (width : Nat) (r : Row) : (r.line standard width).length =
    (lead width r).length + r.literal.length + (r.tail standard).length := by
  have h := congrArg List.length (line_eq_lead width r [])
  simp only [List.append_nil, List.length_append] at h
  omega

/-- The first two quotes of a line lie before or behind the end of a statement that is still open
where the line begins. -/
theorem exists_quotesWithin_line (hr : IsTextRow r) (width pos : Nat) (t : Text) :
    ∃ first last rest,
      quotesWithin false pos (r.line standard width ++ t) = first :: last :: rest ∧
      first < pos + statementLength (r.line standard width ++ t) ∧
      pos ≤ first ∧ first < pos + (r.line standard width).length ∧
      (standard.statementEnd <:+: r.literal →
        pos + statementLength (r.line standard width ++ t) < last) ∧
      (¬ standard.statementEnd <:+: r.literal →
        last ≤ pos + statementLength (r.line standard width ++ t)) := by
  have hlength := length_line width r
  have hstop := statementLength_line hr.isName width t
  have hpos : 0 < statementLength (r.literal ++ (r.tail standard ++ t)) := by
    obtain ⟨body, -, hliteral⟩ := hr.literal_eq
    have hquote := statementLength_append_of_notMem (s := ['\x22']) (by decide)
      (t := body ++ ['\x22'] ++ (r.tail standard ++ t))
    rw [List.singleton_append, ← List.cons_append, ← hliteral] at hquote
    rw [hquote, List.length_singleton]
    omega
  have hliteral : 2 ≤ r.literal.length := by
    obtain ⟨body, -, hliteral⟩ := hr.literal_eq
    simp [hliteral]
  refine ⟨_, _, _, quotesWithin_line hr width pos t, ?_, ?_, ?_, fun h => ?_, fun h => ?_⟩
  · omega
  · omega
  · omega
  · have := statementLength_append_of_infix (t := r.tail standard ++ t) h
    omega
  · have := statementLength_literal (t := r.tail standard ++ t) hr h
    omega

theorem even_quotesWithin_line (hr : IsTextRow r) (width pos : Nat) :
    Even (quotesWithin false pos (r.line standard width)).length ↔
      Even (quotes r.comment).length := by
  have hline := quotesWithin_line hr width pos []
  rw [quotesWithin_tail, List.append_nil, quotesWithin, List.append_nil] at hline
  rw [hline, List.length_cons, List.length_cons, Nat.even_add_one, Nat.even_add_one, not_not,
    quotes_eq_quotesWithin, length_quotesWithin _ 0]

theorem escapesNext_line (width : Nat) (r : Row) :
    escapesNext false (r.line standard width) = false :=
  escapesNext_append_of_isBlank isBlank_of_mem_lineTerminator standard.lineTerminator_ne_nil

end Unquote

end ResourceScript

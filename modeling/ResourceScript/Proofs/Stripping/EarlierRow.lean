import ResourceScript.Proofs.Stripping.Reach

/-!
# Statements that begin in an earlier row

Where an earlier text or comment passes for the assignment, the statement begins in it. Its first
quote is then the one that closes the literal of the text, or the first quote of the comment behind
the mention. No row of another name changes when the statement ends before it can pair that quote
up, or when the statement goes on up to the own row and strips there as usual.

## Main definitions

* `Unquote.KeepsBehindComment`: a statement that begins in a comment changes no row of another name.

## Main results

* `Unquote.textStart_iff`, `Unquote.commentStart_iff`: the statement that begins in an earlier text
  or in an earlier comment.
-/

namespace ResourceScript.Unquote

open Settings (standard)
open Block

/-- A statement that begins with a mention in the comment on `r` strips no quote of another row than
that of the name. -/
def KeepsBehindComment (name : Text) (r : Row) (mention : Text) : List Row → Prop
  | [] => True
  | next :: after =>
    match (quotes mention).length with
    | 0 => r.IsClosed ∨ standard.statementEnd <:+: next.literal ∨
        (next.name = name ∧ ¬ Overruns next after)
    | 1 => r.IsClosed
    | _ => False

variable {r next : Row} {after : List Row} {width lo hi : Nat} {u y name : Text}

/-- **The statement that begins in an earlier text.** Its first quote is the one that closes the
literal of that text. That quote is stripped, unless the statement ends before it or before the next
quote. -/
theorem textStart_iff (hu : escapesNext false u = false) (hy : IsSealed y) (hr : IsTextRow r)
    (hnext : IsTextRow next) (hlo : u.length + y.length < lo) :
    StripsWithin u (y ++ '\x22' :: (r.tail standard ++ linesOf standard width (next :: after)))
      lo hi ↔
        standard.statementEnd <:+: y ++ ['\x22'] ∨ (r.IsClosed ∧ quotes r.comment = []) := by
  set t := linesOf standard width (next :: after) with ht
  set x := y ++ '\x22' :: (r.tail standard ++ t) with hx
  obtain ⟨first, last, rest, hfirst, hlt, hle, -⟩ := exists_quotesWithin_line hnext width
    (u.length + y.length + 1 + (r.tail standard).length) (linesOf standard width after)
  rw [← linesOf_cons, ← ht] at hfirst hlt
  have hquotes : quotesWithin false u.length x = (u.length + y.length) ::
      (quotesWithin false (u.length + y.length + 1 + 2) r.comment ++ first :: last :: rest) := by
    rw [hx, hy.quotesWithin_append, quotesWithin, if_pos ⟨rfl, rfl⟩, quotesWithin_tail, hfirst]
  by_cases hends : standard.statementEnd <:+: y ++ ['\x22']
  · refine iff_of_true (stripsWithin_of_le hu hquotes ?_) (Or.inl hends)
    have hstop := statementLength_append_of_infix (t := r.tail standard ++ t) hends
    rw [List.append_assoc, List.singleton_append, ← hx, List.length_append,
      List.length_singleton] at hstop
    omega
  have hbody : ¬ standard.statementEnd <:+: y := fun hy =>
    hends (hy.trans (List.infix_append' [] y ['\x22']))
  have hstop : statementLength x = y.length + 1 + statementLength (r.tail standard ++ t) :=
    statementLength_append_quote hbody
  have hcomment : quotes r.comment = [] ↔
      quotesWithin false (u.length + y.length + 1 + 2) r.comment = [] := by
    rw [quotes_eq_quotesWithin, ← List.length_eq_zero_iff, ← List.length_eq_zero_iff,
      length_quotesWithin 0]
  rw [or_iff_right hends, hcomment]
  cases hks : quotesWithin false (u.length + y.length + 1 + 2) r.comment with
  | nil =>
    rw [hks, List.nil_append] at hquotes
    by_cases hclosed : r.IsClosed
    · have htail := statementLength_tail_of_isClosed (t := t) hr hclosed
      exact iff_of_true (stripsWithin_of_lt hu hquotes (by omega)) ⟨hclosed, rfl⟩
    · have htail := statementLength_tail_of_not_isClosed (t := t) hr hclosed
      refine iff_of_false (not_stripsWithin hu hquotes ?_ ?_ hlo) fun h => hclosed h.1
      · omega
      · omega
  | cons k ks =>
    have hk := (lt_of_mem_quotesWithin_comment (hks ▸ List.mem_cons_self)).2
    have hpass : (r.tail standard).length ≤ statementLength (r.tail standard ++ t) + 3 := by
      by_cases hclosed : r.IsClosed
      · exact (statementLength_tail_of_isClosed hr hclosed).ge
      · have htail := statementLength_tail_of_not_isClosed (t := t) hr hclosed
        omega
    rw [hks, List.cons_append] at hquotes
    refine iff_of_false (not_stripsWithin hu hquotes ?_ ?_ hlo) fun h => List.cons_ne_nil k ks h.2
    · omega
    · omega

/-! ### Comments -/

theorem quotesWithin_comment (pos : Nat) (y t : Text) :
    quotesWithin false pos (y ++ '\r' :: '\n' :: t) =
      quotesWithin false pos y ++ quotesWithin false (pos + y.length + 2) t := by
  rw [quotesWithin_append, quotesWithin_lineTerminator]

/-- The statement that begins in a closed comment ends with it, so that it strips two quotes of the
comment or none. -/
theorem commentStart_iff_of_isClosed (hu : escapesNext false u = false) (hlineFeed : '\n' ∉ y)
    (hlast : y.getLast? = some ';') (hnext : IsTextRow next) (hlo : u.length + y.length + 2 ≤ lo) :
    StripsWithin u (y ++ '\r' :: '\n' :: linesOf standard width (next :: after)) lo hi ↔
      (quotesWithin false u.length y).length ≤ 1 := by
  obtain ⟨v, rfl⟩ := List.getLast?_eq_some_iff.mp hlast
  set t := linesOf standard width (next :: after) with ht
  have hstop : statementLength (v ++ [';'] ++ '\r' :: '\n' :: t) = v.length := by
    have hv : '\n' ∉ v := fun h => hlineFeed (List.mem_append_left _ h)
    have htext : v ++ [';'] ++ '\r' :: '\n' :: t = v ++ (standard.statementEnd ++ t) := by
      simp [statementEnd_standard]
    rw [htext, statementLength_append_statementEnd hv]
  have hquotes := quotesWithin_comment u.length (v ++ [';']) t
  have hsemicolon : quotesWithin false u.length (v ++ [';']) = quotesWithin false u.length v := by
    have hnil (odd : Bool) (p : Nat) : quotesWithin odd p [';'] = [] := by simp [quotesWithin]
    rw [quotesWithin_append, hnil, List.append_nil]
  obtain ⟨first, last, rest, hfirst, -, hle, -⟩ := exists_quotesWithin_line hnext width
    (u.length + (v ++ [';']).length + 2) (linesOf standard width after)
  rw [← linesOf_cons, ← ht] at hfirst
  rw [hfirst, hsemicolon] at hquotes
  rw [hsemicolon]
  have hbound : ∀ k ∈ quotesWithin false u.length v, k < u.length + v.length := fun k hk =>
    (of_mem_quotesWithin hk).2.1
  rw [List.length_append, List.length_singleton] at hle hlo
  rcases hks : quotesWithin false u.length v with _ | ⟨k, _ | ⟨k', ks⟩⟩
  · rw [hks, List.nil_append] at hquotes
    exact iff_of_true (stripsWithin_of_le hu hquotes (by omega)) (Nat.zero_le 1)
  · rw [hks, List.singleton_append] at hquotes
    exact iff_of_true (stripsWithin_of_lt hu hquotes (by omega)) (Nat.le_refl 1)
  · have hk := hbound k (by simp [hks])
    have hk' := hbound k' (by simp [hks])
    rw [hks] at hquotes
    refine iff_of_false (not_stripsWithin hu hquotes ?_ ?_ ?_) (by simp)
    · omega
    · omega
    · omega

/-- The statement that begins with a line strips quotes of that line, if it does not end in the
literal. -/
theorem nextRow_iff (hu : escapesNext false u = false) (hnext : IsTextRow next)
    (hafter : ∀ m ∈ after, IsTextRow m)
    (hown : next.name = name → lo = u.length ∧ hi = lo + (next.line standard width).length)
    (hother : next.name ≠ name → u.length + (next.line standard width).length ≤ lo) :
    StripsWithin u (linesOf standard width (next :: after)) lo hi ↔
      standard.statementEnd <:+: next.literal ∨ (next.name = name ∧ ¬ Overruns next after) := by
  obtain ⟨first, last, rest, hquotes, hlt, -, hline, hin, hout⟩ := exists_quotesWithin_line hnext
    width u.length (linesOf standard width after)
  rw [← linesOf_cons] at hquotes hlt hin hout
  by_cases hends : standard.statementEnd <:+: next.literal
  · exact iff_of_true (stripsWithin_of_lt hu hquotes (hin hends)) (Or.inl hends)
  · rw [or_iff_right hends]
    by_cases hname : next.name = name
    · obtain ⟨rfl, rfl⟩ := hown hname
      rw [and_iff_right hname, linesOf_cons]
      exact ownRow_iff hu hnext hafter
    · have hlo : first < lo := Nat.lt_of_lt_of_le hline (hother hname)
      exact iff_of_false (not_stripsWithin hu hquotes hlt (hout hends) hlo) fun h => hname h.1

/-- The statement that begins in an open comment without quotes might as well begin with the next
line. -/
theorem stripsWithin_openComment_iff {t : Text} (hu : escapesNext false u = false)
    (hlineFeed : '\n' ∉ y) (hlast : y.getLast? ≠ some ';')
    (hquotes : quotesWithin false u.length y = []) :
    StripsWithin u (y ++ '\r' :: '\n' :: t) lo hi ↔
      StripsWithin (u ++ (y ++ ['\r', '\n'])) t lo hi := by
  set z := y ++ ['\r', '\n'] with hz
  have hnext : escapesNext false z = false :=
    escapesNext_append_of_isBlank isBlank_of_mem_lineTerminator standard.lineTerminator_ne_nil
  have hzquotes : quotesWithin false u.length z = [] := by
    rw [hz, quotesWithin_comment, hquotes]
    rfl
  have hsplit : y ++ '\r' :: '\n' :: t = z ++ t := by simp [hz]
  have hstop : statementLength (z ++ t) = z.length + statementLength t := by
    rw [← hsplit, statementLength_append_lineTerminator hlineFeed hlast]
    simp [hz]
  rw [hsplit]
  exact stripsWithin_append_iff hu hnext hzquotes hstop

/-- The statement that begins in an open comment with quotes strips the first of them. -/
theorem not_stripsWithin_openComment (hu : escapesNext false u = false) (hlineFeed : '\n' ∉ y)
    (hlast : y.getLast? ≠ some ';') (hnext : IsTextRow next)
    (hquotes : quotesWithin false u.length y ≠ []) (hlo : u.length + y.length ≤ lo) :
    ¬ StripsWithin u (y ++ '\r' :: '\n' :: linesOf standard width (next :: after)) lo hi := by
  set t := linesOf standard width (next :: after) with ht
  have hstop : statementLength (y ++ '\r' :: '\n' :: t) = y.length + 2 + statementLength t :=
    statementLength_append_lineTerminator hlineFeed hlast
  obtain ⟨first, last, rest, hfirst, hlt, -⟩ := exists_quotesWithin_line hnext width
    (u.length + y.length + 2) (linesOf standard width after)
  rw [← linesOf_cons, ← ht] at hfirst hlt
  obtain ⟨k, ks, hks⟩ := List.exists_cons_of_ne_nil hquotes
  have hbound : ∀ q ∈ k :: ks, q < u.length + y.length := fun q hq =>
    (of_mem_quotesWithin (hks ▸ hq)).2.1
  have hk : k < u.length + y.length := hbound k List.mem_cons_self
  -- the quote is closed by another one of the comment or by the first one of the next line
  obtain ⟨second, more, hsecond, hle⟩ : ∃ second more,
      ks ++ first :: last :: rest = second :: more ∧
        second ≤ u.length + y.length + 2 + statementLength t := by
    cases ks with
    | nil => exact ⟨first, last :: rest, rfl, hlt.le⟩
    | cons k' ks =>
      have hk' := hbound k' (by simp)
      exact ⟨k', _, rfl, by omega⟩
  have hall : quotesWithin false u.length (y ++ '\r' :: '\n' :: t) = k :: second :: more := by
    rw [quotesWithin_comment, hks, hfirst, List.cons_append, hsecond]
  refine not_stripsWithin hu hall ?_ ?_ (by omega)
  · omega
  · omega

/-- The statement that begins in an open comment strips its quotes, and it is that of the next row
when the comment has none. -/
theorem commentStart_iff_of_open (hu : escapesNext false u = false) (hlineFeed : '\n' ∉ y)
    (hlast : y.getLast? ≠ some ';') (hnext : IsTextRow next) (hafter : ∀ m ∈ after, IsTextRow m)
    (hown : next.name = name → lo = u.length + y.length + 2 ∧
      hi = lo + (next.line standard width).length)
    (hother : next.name ≠ name → u.length + y.length + 2 + (next.line standard width).length ≤ lo) :
    StripsWithin u (y ++ '\r' :: '\n' :: linesOf standard width (next :: after)) lo hi ↔
      quotesWithin false u.length y = [] ∧ (standard.statementEnd <:+: next.literal ∨
        (next.name = name ∧ ¬ Overruns next after)) := by
  by_cases hquotes : quotesWithin false u.length y = []
  · have hstart : escapesNext false (u ++ (y ++ ['\r', '\n'])) = false := by
      rw [← List.append_assoc]
      exact escapesNext_append_of_isBlank isBlank_of_mem_lineTerminator
        standard.lineTerminator_ne_nil
    have hlength : (u ++ (y ++ ['\r', '\n'])).length = u.length + y.length + 2 := by
      simp only [List.length_append, List.length_cons, List.length_nil]
      omega
    rw [and_iff_right hquotes, stripsWithin_openComment_iff hu hlineFeed hlast hquotes]
    refine nextRow_iff hstart hnext hafter (fun heq => ?_) fun hne => ?_
    · rw [hlength]
      exact hown heq
    · rw [hlength]
      exact hother hne
  · have hlo : u.length + y.length ≤ lo := by
      by_cases hname : next.name = name
      · have := (hown hname).1
        omega
      · have := hother hname
        omega
    exact iff_of_false (not_stripsWithin_openComment hu hlineFeed hlast hnext hquotes hlo)
      fun h => hquotes h.1

/-- **The statement that begins in an earlier comment.** Quotes of that comment are stripped if
there are two of them, or one of them before an open end of the statement; without any it is the
statement of the next row. -/
theorem commentStart_iff (hu : escapesNext false u = false) (hlineFeed : '\n' ∉ y)
    (hlast : r.IsClosed ↔ y.getLast? = some ';') (hnext : IsTextRow next)
    (hafter : ∀ m ∈ after, IsTextRow m)
    (hown : next.name = name → lo = u.length + y.length + 2 ∧
      hi = lo + (next.line standard width).length)
    (hother : next.name ≠ name → u.length + y.length + 2 + (next.line standard width).length ≤ lo) :
    StripsWithin u (y ++ '\r' :: '\n' :: linesOf standard width (next :: after)) lo hi ↔
      KeepsBehindComment name r (y ++ ['=']) (next :: after) := by
  have hlo : u.length + y.length + 2 ≤ lo := by
    by_cases hne : next.name = name
    · exact (hown hne).1.ge
    · have := hother hne
      omega
  have hlength : (quotes (y ++ ['='])).length = (quotesWithin false u.length y).length := by
    rw [quotes_eq_quotesWithin, quotesWithin_append, List.length_append,
      length_quotesWithin 0 u.length y]
    simp [quotesWithin]
  rw [KeepsBehindComment, hlength]
  by_cases hclosed : r.IsClosed
  · rw [commentStart_iff_of_isClosed hu hlineFeed (hlast.mp hclosed) hnext hlo]
    rcases (quotesWithin false u.length y).length with _ | _ | n
    · simp [hclosed]
    · simp [hclosed]
    · simp
  · rw [commentStart_iff_of_open hu hlineFeed (mt hlast.mpr hclosed) hnext hafter hown hother,
      ← List.length_eq_zero_iff]
    rcases (quotesWithin false u.length y).length with _ | _ | n
    · simp [hclosed]
    · simp [hclosed]
    · simp

end ResourceScript.Unquote

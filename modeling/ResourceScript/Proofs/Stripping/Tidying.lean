import ResourceScript.Proofs.Stripping.Composite
import ResourceScript.Proofs.Stripping.Content

/-!
# Tidying and the other rows

Composite stripping opens the statement of one parameter, but it drops the stray separators of the
whole block. With the default settings every line ends a statement and the next line begins afresh,
so the lines are tidied on their own. Each line that is not tidy gets shorter, and no other line can
make up for that: the content of each line stays, and what is missing could not be told apart from
the beginning of the next line by a line feed. So the other rows stay as they were written exactly
when their texts are tidy, or when the parameter keeps its quotes and nothing is tidied at all.

## Main results

* `Unquote.dropSeparators_linesOf_append`: lines are tidied on their own.
* `Unquote.isTidy_linesOf_iff`: lines are tidy exactly if their texts are.
* `Unquote.dropSeparators_frame_iff`: when tidying keeps the lines around a line.
* `Unquote.stripQuotes_composite_frame_iff`: when composite stripping keeps the other rows.
-/

namespace ResourceScript.Unquote

open Text (IsName isBlank)
open Settings (standard)
open Block

section Lines

variable {width : Nat} {r : Row} {rows before after : List Row} {body s t y : Text}

/-! ### Lines begin afresh -/

theorem beginsAfresh_iff : BeginsAfresh standard.lineTerminator t ↔
    loneSeparatorLength standard.lineTerminator ('\r' :: '\n' :: t) = 0 := by
  constructor
  · exact fun h => h ['\r', '\n'] (List.suffix_refl _) (by simp)
  · intro h x hx hne
    rw [lineTerminator_standard, List.suffix_cons_iff, List.suffix_cons_iff, List.suffix_nil] at hx
    rcases hx with rfl | rfl | rfl
    · exact h
    · rfl
    · exact absurd rfl hne

/-- A line begins afresh: the name behind its indentation is followed by a blank. -/
theorem beginsAfresh_line (hr : IsName r.name) (t : Text) :
    BeginsAfresh standard.lineTerminator (r.line standard width ++ t) := by
  obtain ⟨d, n, hname, hd⟩ := hr.exists_cons
  have hline : r.line standard width ++ t = standard.indent ++ d :: (n ++ ' ' ::
      (List.replicate (width - r.name.length) ' ' ++ ['=', ' '] ++
        (r.literal ++ (r.tail standard ++ t)))) := by
    rw [Row.line_eq, Row.header, hname]
    simp
  rw [beginsAfresh_iff, loneSeparatorLength_eq_zero_iff]
  rintro p ⟨blanks, c, rfl, hblanks, hc⟩ ⟨v, hv⟩
  rw [hline, lineTerminator_standard] at hv
  have hdrop := congrArg (fun s => (s.drop 2).dropWhile isBlank) hv
  simp only [List.cons_append, List.nil_append, List.append_assoc, List.drop_succ_cons,
    List.drop_zero, List.dropWhile_append_of_pos hblanks,
    List.dropWhile_append_of_pos fun c hc => isBlank_of_mem_indent hc] at hdrop
  rw [List.dropWhile_cons_of_neg (by simp [isBlank_separator hc]),
    List.dropWhile_cons_of_neg (by simp [hd])] at hdrop
  -- the line terminator would lie in the name
  have hbegin : ['\r', '\n'] <+: n :=
    (Text.prefix_append_cons_iff (by decide)).mp ⟨v, (List.cons.inj hdrop).2⟩
  have hreturn : '\r' ∉ r.name := hr.notMem_of_isBlank (by decide)
  exact hreturn (hname ▸ List.mem_cons_of_mem d (hbegin.subset List.mem_cons_self))

theorem beginsAfresh_linesOf (hrows : ∀ r ∈ rows, IsName r.name) :
    BeginsAfresh standard.lineTerminator (linesOf standard width rows) := by
  cases rows with
  | nil => exact beginsAfresh_iff.mpr rfl
  | cons r rows => exact beginsAfresh_line (hrows r List.mem_cons_self) _

/-! ### Lines are tidied on their own -/

/-- The line of a row without a comment ends a statement. -/
theorem exists_line_eq (width : Nat) (hcomment : r.comment = []) :
    ∃ s, r.line standard width = s ++ ';' :: standard.lineTerminator :=
  ⟨lead width r ++ r.literal, by
    have h := line_eq_lead width r []
    rw [Row.tail_of_comment_eq_nil hcomment, ← List.append_assoc, List.append_nil,
      List.append_nil] at h
    exact h⟩

theorem dropSeparators_line_append (hcomment : r.comment = [])
    (ht : BeginsAfresh standard.lineTerminator t) :
    dropSeparators standard.lineTerminator (r.line standard width ++ t) =
      dropSeparators standard.lineTerminator (r.line standard width) ++
        dropSeparators standard.lineTerminator t := by
  obtain ⟨s, hs⟩ := exists_line_eq width hcomment
  rw [hs]
  exact dropSeparators_append isBlank_of_mem_lineTerminator rfl (by decide) ht s

/-- **Lines are tidied on their own.** -/
theorem dropSeparators_linesOf_append (hcomment : ∀ r ∈ rows, r.comment = [])
    (ht : BeginsAfresh standard.lineTerminator t) :
    dropSeparators standard.lineTerminator (linesOf standard width rows ++ t) =
      dropSeparators standard.lineTerminator (linesOf standard width rows) ++
        dropSeparators standard.lineTerminator t := by
  rcases List.eq_nil_or_concat' rows with rfl | ⟨rows, r, rfl⟩
  · rfl
  · obtain ⟨s, hs⟩ := exists_line_eq width (hcomment r (by simp))
    rw [linesOf_append, linesOf_cons, linesOf_nil, List.append_nil, hs, ← List.append_assoc]
    exact dropSeparators_append isBlank_of_mem_lineTerminator rfl (by decide) ht _

theorem isTidy_line_iff (hr : IsName r.name) (hcomment : r.comment = [])
    (hliteral : r.literal = '\x22' :: (body ++ ['\x22'])) :
    IsTidy standard.lineTerminator (r.line standard width) ↔
      IsTidy standard.lineTerminator body := by
  have hline : r.line standard width =
      lead width r ++ '\x22' :: (body ++ '\x22' :: standard.statementEnd) := by
    have h := line_eq_lead width r []
    rw [Row.tail_of_comment_eq_nil hcomment, hliteral] at h
    simpa using h
  have hlead : IsTidy standard.lineTerminator (lead width r) :=
    isTidy_of_notMem rfl (carriageReturn_notMem_lead hr width)
  have hend : IsTidy standard.lineTerminator standard.statementEnd := by decide
  rw [hline, isTidy_append_cons_iff isBlank_of_mem_lineTerminator (by decide),
    isTidy_append_cons_iff isBlank_of_mem_lineTerminator (by decide)]
  exact ⟨fun h => h.2.1, fun h => ⟨hlead, h, hend⟩⟩

/-- Lines are tidy exactly if each of them is. -/
theorem isTidy_linesOf_iff (hname : ∀ r ∈ rows, IsName r.name)
    (hcomment : ∀ r ∈ rows, r.comment = []) :
    IsTidy standard.lineTerminator (linesOf standard width rows) ↔
      ∀ r ∈ rows, IsTidy standard.lineTerminator (r.line standard width) := by
  induction rows with
  | nil => exact iff_of_true (by rw [linesOf_nil]; decide) (by simp)
  | cons r rows ih =>
    rw [List.forall_mem_cons] at hname hcomment ⊢
    obtain ⟨s, hs⟩ := exists_line_eq width hcomment.1
    rw [linesOf_cons, ← ih hname.2 hcomment.2, hs]
    exact isTidy_append_iff isBlank_of_mem_lineTerminator rfl (by decide)
      (beginsAfresh_linesOf hname.2) s

/-! ### Which lines stay -/

/-- What tidying dropped at an end of a text has no content. -/
theorem content_eq_nil_of_dropSeparators_append
    (h : dropSeparators standard.lineTerminator s ++ y = s ∨
      y ++ dropSeparators standard.lineTerminator s = s) : content y = [] := by
  have hkept := content_dropSeparators isBlank_of_mem_lineTerminator s
  rcases h with h | h
  all_goals
    have hcontent := congrArg content h
    rw [content_append, hkept] at hcontent
    simpa using hcontent

/-- What tidying drops from whole lines is not the beginning of a line. -/
theorem eq_nil_of_prefix_lead (hr : IsName r.name) (hcontent : content y = [])
    (hlast : y ≠ [] → y.getLast? = some '\n') (h : y <+: lead width r ++ t) : y = [] := by
  by_contra hne
  have hequals : '=' ∉ y := fun hm => by
    have : '=' ∈ content y := List.mem_filter.mpr ⟨hm, by decide⟩
    simp [hcontent] at this
  have hsplit : lead width r ++ t = (standard.indent ++ (r.name ++
      List.replicate (width - r.name.length + 1) ' ')) ++ '=' :: ' ' :: t := by
    simp [lead, Row.header, List.replicate_succ]
  rw [hsplit, Text.prefix_append_cons_iff hequals] at h
  -- all that stands before the equals sign stands on one line
  have hmem := h.subset (List.mem_of_getLast? (hlast hne))
  simp only [List.mem_append, List.mem_replicate] at hmem
  rcases hmem with hmem | hmem | hmem
  · exact absurd hmem (by decide)
  · exact hr.notMem_of_isBlank (by decide) hmem
  · exact absurd hmem.2 (by decide)

theorem getLast?_line (r : Row) : (r.line standard width).getLast? = some '\n' := by
  rw [Row.line, List.getLast?_append_of_ne_nil _ standard.lineTerminator_ne_nil]
  rfl

theorem getLast?_linesOf (hne : linesOf standard width rows ≠ []) :
    (linesOf standard width rows).getLast? = some '\n' := by
  rcases List.eq_nil_or_concat' rows with rfl | ⟨rows, r, rfl⟩
  · exact absurd linesOf_nil hne
  · rw [linesOf_append, linesOf_cons, linesOf_nil, List.append_nil, List.getLast?_append,
      getLast?_line, Option.some_or]

/-- Lines that got shorter are not completed by the line behind them. -/
theorem dropSeparators_linesOf_eq_of_prefix_append {own : Row} (hown : IsName own.name)
    (h : linesOf standard width before <+:
      dropSeparators standard.lineTerminator (linesOf standard width before) ++
        (lead width own ++ t)) :
    dropSeparators standard.lineTerminator (linesOf standard width before) =
      linesOf standard width before := by
  set lines := linesOf standard width before
  have hlength := length_dropSeparators_le standard.lineTerminator lines
  obtain ⟨y, hy⟩ := List.prefix_of_prefix_length_le (List.prefix_append ..) h hlength
  have hcontent : content y = [] := content_eq_nil_of_dropSeparators_append (Or.inl hy)
  have hlast : y ≠ [] → y.getLast? = some '\n' := fun hne => by
    have hlines : lines ≠ [] := hy ▸ List.append_ne_nil_of_right_ne_nil _ hne
    rw [← getLast?_linesOf hlines, ← List.getLast?_append_of_ne_nil _ hne, hy]
  have hbegin : y <+: lead width own ++ t := by
    rwa [← List.prefix_append_right_inj (dropSeparators standard.lineTerminator lines), hy]
  rw [eq_nil_of_prefix_lead hown hcontent hlast hbegin, List.append_nil] at hy
  exact hy

/-- Lines that got shorter are not completed by the line before them. -/
theorem dropSeparators_linesOf_eq_of_suffix_append (hafter : ∀ r ∈ after, IsName r.name)
    (hs : s.getLast? = some '\n')
    (h : linesOf standard width after <:+
      s ++ dropSeparators standard.lineTerminator (linesOf standard width after)) :
    dropSeparators standard.lineTerminator (linesOf standard width after) =
      linesOf standard width after := by
  cases after with
  | nil => rfl
  | cons r after =>
    set lines := linesOf standard width (r :: after) with hlines
    have hlength := length_dropSeparators_le standard.lineTerminator lines
    obtain ⟨y, hy⟩ := List.suffix_of_suffix_length_le (List.suffix_append ..) h hlength
    have hcontent : content y = [] := content_eq_nil_of_dropSeparators_append (Or.inr hy)
    have hsuffix : y <:+ s := by
      obtain ⟨z, hz⟩ := h
      have hz' : z ++ y ++ dropSeparators standard.lineTerminator lines =
          s ++ dropSeparators standard.lineTerminator lines := by
        rw [List.append_assoc, hy, hz]
      exact ⟨z, List.append_cancel_right hz'⟩
    have hlast : y ≠ [] → y.getLast? = some '\n' := fun hne => by
      obtain ⟨z, rfl⟩ := hsuffix
      rwa [List.getLast?_append_of_ne_nil _ hne] at hs
    have hbegin : y <+: lead width r ++ (r.literal ++ (r.tail standard ++
        linesOf standard width after)) := by
      rw [← line_eq_lead, ← linesOf_cons, ← hlines, ← hy]
      exact List.prefix_append ..
    rw [eq_nil_of_prefix_lead (hafter r List.mem_cons_self) hcontent hlast hbegin,
      List.nil_append] at hy
    exact hy

/-- **The lines around a line.** Tidying keeps them exactly when they are tidy themselves. -/
theorem dropSeparators_frame_iff {own : Row} (hname : ∀ r ∈ before ++ own :: after, IsName r.name)
    (hcomment : ∀ r ∈ before ++ own :: after, r.comment = []) :
    (∃ line, dropSeparators standard.lineTerminator (linesOf standard width before ++
      (own.line standard width ++ linesOf standard width after)) =
        linesOf standard width before ++ line ++ linesOf standard width after) ↔
      ∀ r ∈ before ++ after, IsTidy standard.lineTerminator (r.line standard width) := by
  simp only [List.forall_mem_append, List.forall_mem_cons] at hname hcomment ⊢
  obtain ⟨hbefore, hown, hafter⟩ := hname
  rw [dropSeparators_linesOf_append hcomment.1 (beginsAfresh_line hown _),
    dropSeparators_line_append hcomment.2.1 (beginsAfresh_linesOf hafter),
    ← isTidy_linesOf_iff hbefore hcomment.1, ← isTidy_linesOf_iff hafter hcomment.2.2,
    ← dropSeparators_eq_self_iff, ← dropSeparators_eq_self_iff]
  set tidied := dropSeparators standard.lineTerminator (own.line standard width) with htidied
  constructor
  · rintro ⟨line, hline⟩
    have hlead : tidied = lead width own ++
        dropSeparators standard.lineTerminator (own.literal ++ own.tail standard) := by
      simpa using dropSeparators_line width hown []
    have hlast : tidied.getLast? = some '\n' :=
      (getLast?_dropSeparators standard.lineTerminator_ne_nil _).trans (getLast?_line own)
    have hbegin : linesOf standard width before <+:
        dropSeparators standard.lineTerminator (linesOf standard width before) ++
          (lead width own ++ (dropSeparators standard.lineTerminator
            (own.literal ++ own.tail standard) ++
              dropSeparators standard.lineTerminator (linesOf standard width after))) := by
      rw [← List.append_assoc (lead width own), ← hlead, hline, List.append_assoc]
      exact List.prefix_append ..
    have hsuffix : linesOf standard width after <:+
        dropSeparators standard.lineTerminator (linesOf standard width before) ++ tidied ++
          dropSeparators standard.lineTerminator (linesOf standard width after) := by
      rw [List.append_assoc, hline]
      exact List.suffix_append ..
    refine ⟨dropSeparators_linesOf_eq_of_prefix_append hown hbegin,
      dropSeparators_linesOf_eq_of_suffix_append hafter ?_ hsuffix⟩
    rw [List.getLast?_append, hlast, Option.some_or]
  · rintro ⟨hfirst, hlast⟩
    rw [hfirst, hlast]
    exact ⟨tidied, (List.append_assoc ..).symm⟩

end Lines

/-! ### Stripping a written block -/

variable {values before after : List NamedValue} {nv : NamedValue}

/-- The line of a text is tidy exactly if the text is. -/
theorem isTidy_line_plainRow_iff {m : NamedValue} (hm : m.IsText ∧ m.IsUncommented standard)
    (width : Nat) : IsTidy standard.lineTerminator ((plainRow standard m).line standard width) ↔
      IsTidy standard.lineTerminator m.text := by
  rw [isTidy_line_iff hm.1.isName (comment_plainRow hm.2) (hm.1.literal_eq {}),
    isTidy_escape_iff isBlank_of_mem_lineTerminator]

/-- Composite stripping of a row changes no other row exactly when their texts are tidy, or when the
row keeps its quotes. -/
theorem stripQuotes_composite_linesOf_iff {width : Nat}
    (htexts : ∀ m ∈ before ++ nv :: after, m.IsText ∧ m.IsUncommented standard)
    (hfind : findAssignment? nv.name
      (linesOf standard width ((before ++ nv :: after).map (plainRow standard))) =
        some ((linesOf standard width (before.map (plainRow standard))).length +
          standard.indent.length)) :
    (∃ line, stripQuotes standard true nv.name
      (linesOf standard width ((before ++ nv :: after).map (plainRow standard))) =
        .ok (linesOf standard width (before.map (plainRow standard)) ++ line ++
          linesOf standard width (after.map (plainRow standard)))) ↔
      KeepsQuotes standard nv.text ∨
        ∀ m ∈ before ++ after, IsTidy standard.lineTerminator m.text := by
  obtain ⟨hnv, hplain⟩ := htexts nv (by simp)
  have hname : IsName (plainRow standard nv).name := hnv.isName
  have hcomment : (plainRow standard nv).comment = [] := comment_plainRow hplain
  have hliteral := hnv.literal_eq {}
  have hbody := isSealed_escape nv.quoting.allowVariables nv.text
  rw [List.map_append, List.map_cons, linesOf_append, linesOf_cons] at hfind ⊢
  by_cases hkeep : KeepsQuotes standard nv.text
  · refine iff_of_true ⟨(plainRow standard nv).line standard width, ?_⟩ (Or.inl hkeep)
    rw [List.append_assoc]
    exact stripQuotes_row_of_keepsQuotes isBlank_of_mem_lineTerminator hname hcomment hliteral hbody
      hfind (keepsQuotes_escape_iff.mpr hkeep)
  · have hrow := stripQuotes_row_of_not_keepsQuotes isBlank_of_mem_lineTerminator hname hcomment
      hliteral hbody hfind (mt keepsQuotes_escape_iff.mp hkeep)
    have hrows : ∀ r ∈ before.map (plainRow standard) ++ (plainRow standard nv).withLiteral
        (openStatement standard (Text.escape nv.quoting.allowVariables nv.text)) ::
          after.map (plainRow standard), IsName r.name ∧ r.comment = [] := by
      simp only [List.forall_mem_append, List.forall_mem_cons, List.forall_mem_map] at htexts ⊢
      exact ⟨fun m hm => ⟨(htexts.1 m hm).1.isName, comment_plainRow (htexts.1 m hm).2⟩,
        ⟨hname, hcomment⟩,
        fun m hm => ⟨(htexts.2.2 m hm).1.isName, comment_plainRow (htexts.2.2 m hm).2⟩⟩
    have hothers : (∀ r ∈ before.map (plainRow standard) ++ after.map (plainRow standard),
        IsTidy standard.lineTerminator (r.line standard width)) ↔
          ∀ m ∈ before ++ after, IsTidy standard.lineTerminator m.text := by
      rw [← List.map_append, List.forall_mem_map]
      refine forall₂_congr fun m hm => isTidy_line_plainRow_iff (htexts m ?_) width
      rw [List.mem_append, List.mem_cons]
      exact (List.mem_append.mp hm).imp_right Or.inr
    rw [or_iff_right hkeep, ← hothers,
      ← dropSeparators_frame_iff (fun r hr => (hrows r hr).1) fun r hr => (hrows r hr).2]
    refine exists_congr fun line => ?_
    change stripQuotes standard true (plainRow standard nv).name _ = _ ↔ _
    rw [hrow, Except.ok.injEq]

/-- **The rows that composite stripping leaves alone.** With the default settings, stripping the
quotes of a composite value in a written block of texts leaves the lines of all other rows as they
were written exactly when no other text holds a stray separator, or the value keeps its quotes. -/
theorem stripQuotes_composite_frame_iff
    (hvalues : ∀ nv ∈ values, nv.IsText ∧ nv.IsUncommented standard)
    (hsplit : printed standard (keyed values) = before ++ nv :: after) :
    let width := nameWidth standard ((before ++ nv :: after).map (plainRow standard))
    let linesBefore := linesOf standard width (before.map (plainRow standard))
    let linesAfter := linesOf standard width (after.map (plainRow standard))
    WrittenWith {} (keyed values) fun block =>
      findAssignment? nv.name block = some (linesBefore.length + standard.indent.length) →
        ((∃ line, stripQuotes standard true nv.name block =
          .ok (linesBefore ++ line ++ linesAfter)) ↔
            KeepsQuotes standard nv.text ∨
              ∀ m ∈ before ++ after, IsTidy standard.lineTerminator m.text) := by
  intro width linesBefore linesAfter
  refine writtenWith_plainRow
    (fun m hm => ⟨(hvalues m hm).2, (hvalues m hm).1.literalFault?_eq_none⟩) ?_
  rw [hsplit]
  exact stripQuotes_composite_linesOf_iff fun m hm =>
    hvalues m (mem_of_mem_printed (hsplit ▸ hm)).1

/-- A text with line breaks, a brace and escaped quotes, but without stray separators, stands before
the stripped row. -/
theorem stripQuotes_composite_frame_tidy :
    let a : NamedValue := { name := ['A'], value := .text "\r\n ,\"\r\n\x7d, x".toList }
    let b : NamedValue := { name := ['B'], value := .text "@(\"v\")".toList }
    ∃ block, (render {} (keyed [a, b])).outcome = .ok block ∧
      block = textOf standard [plainRow standard a, plainRow standard b] ∧
      ((∃ line, stripQuotes standard true ['B'] block =
        .ok (linesOf standard 20 [plainRow standard a] ++ line ++ [])) ↔
          KeepsQuotes standard b.text ∨
            ∀ m ∈ [a] ++ [], IsTidy standard.lineTerminator m.text) := by
  intro a b
  have hsurviving : surviving (keyed [a, b]) = keyed [a, b] :=
    surviving_eq_of_perm (.refl _) (by decide)
  have hsplit : printed standard (keyed [a, b]) = [a] ++ b :: [] := by
    rw [printed, hsurviving]
    rfl
  have houtcome : (render {} (keyed [a, b])).outcome =
      .ok (textOf standard [plainRow standard a, plainRow standard b]) := by
    rw [render, commentsOf, printed, hsurviving]
    rfl
  have hwritten := stripQuotes_composite_frame_iff (by decide) hsplit
  rw [WrittenWith, houtcome] at hwritten
  exact ⟨_, houtcome, rfl, hwritten (by decide)⟩

/-- The lone comma in the text of another row is dropped although its row is not the named one. -/
theorem stripQuotes_composite_frame_stray :
    let a : NamedValue := { name := ['A'], value := .text "x\r\n,\r\ny".toList }
    let b : NamedValue := { name := ['B'], value := .text ['v'] }
    ∃ block stripped, (render {} (keyed [a, b])).outcome = .ok block ∧
      block = textOf standard [plainRow standard a, plainRow standard b] ∧
      findAssignment? ['B'] block =
        some ((linesOf standard 20 [plainRow standard a]).length + 12) ∧
      stripQuotes standard true ['B'] block = .ok stripped ∧
      stripped = textOf standard [(plainRow standard a).withLiteral "\"x\r\ny\"".toList,
        (plainRow standard b).withLiteral ['v']] ∧
      ¬ ∃ line, stripped = linesOf standard 20 [plainRow standard a] ++ line := by
  intro a b
  have hsurviving : surviving (keyed [a, b]) = keyed [a, b] :=
    surviving_eq_of_perm (.refl _) (by decide)
  refine ⟨_, _, ?_, rfl, ?_, ?_, rfl, ?_⟩
  · rw [render, commentsOf, printed, hsurviving]
    rfl
  · decide
  · decide
  · rintro ⟨line, hline⟩
    have hbegin : ¬ linesOf standard 20 [plainRow standard a] <+: textOf standard
        [(plainRow standard a).withLiteral "\"x\r\ny\"".toList,
          (plainRow standard b).withLiteral ['v']] := by decide
    exact hbegin ⟨_, hline.symm⟩

end ResourceScript.Unquote

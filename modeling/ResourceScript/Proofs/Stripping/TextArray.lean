import ResourceScript.Proofs.Stripping.Content
import ResourceScript.Proofs.Stripping.Conversion
import ResourceScript.Proofs.Stripping.Line
import ResourceScript.Proofs.Unquote.Nesting
import ResourceScript.Proofs.Unquote.Removal

/-!
# Stripping an array of texts

Composite stripping takes the quotes off the texts of an array, as long as it can tell their closing
quotes from the opening quotes of nested fields. It cannot behind an equals sign: a text that ends
in one keeps its closing quote, and the quote stays whatever tidying does. So the array is unquoted
exactly when no text ends in that way.

## Main definitions

* `Unquote.IsOneLine`: texts on one line in which nothing has to be escaped.

## Main results

* `Unquote.quote_mem_of_stripQuotes`: a quote that is not paired is still there afterwards.
* `Unquote.stripQuotes_textArray_iff`: when an array of texts is unquoted.
-/

namespace ResourceScript.Unquote

open Text (IsName isBlank isSpecial escapeLead)
open Settings (standard)
open Block

/-- A text on one line in which nothing has to be escaped. -/
def IsOneLine (s : Text) : Prop := ∀ c ∈ s, isSpecial false c = false ∧ c ≠ '\r'

instance (s : Text) : Decidable (IsOneLine s) :=
  decidable_of_iff (s.all fun c => !isSpecial false c && c != '\r')
    (by simp [IsOneLine])

variable {settings : Settings} {name s stripped : Text} {start q : Nat} {r : Row} {ts : List Text}
  {nv : NamedValue}

/-! ### Quotes that stay -/

theorem keptByTidying_quote : KeptByTidying (· == '\x22') where
  blank c hc := by
    rw [beq_eq_false_iff_ne]
    rintro rfl
    exact absurd hc (by decide)
  escapeLead_eq := by decide
  comma_eq := by decide
  semicolon_eq := by decide

/-- A quote that is not paired is still there after composite stripping. -/
theorem quote_mem_of_stripQuotes (hblank : ∀ c ∈ settings.lineTerminator, isBlank c)
    (hfind : findAssignment? name s = some start) (hq : s[q]? = some '\x22')
    (hpaired : q ∉ boundaries s start (statementStop settings s start) true)
    (h : stripQuotes settings true name s = .ok stripped) : '\x22' ∈ stripped := by
  rw [stripQuotes, hfind] at h
  simp only at h
  cases hboundaries : boundaries s start (statementStop settings s start) true with
  | nil =>
    rw [hboundaries] at h
    obtain rfl : s = stripped := Except.ok.inj h
    exact List.mem_of_getElem? hq
  | cons p ps =>
    rw [hboundaries] at h hpaired
    simp only [if_true] at h
    obtain ⟨tidied, htidied, hfilter⟩ :=
      keptByTidying_quote.filter_tidy hblank (Text.deleteAt (p :: ps) s) start
    obtain rfl : tidied = stripped := Except.ok.inj (htidied.symm.trans h)
    have hkept : '\x22' ∈ Text.deleteAt (p :: ps) s :=
      Text.mem_deleteFrom hq (by rwa [Nat.zero_add])
    have hmem : '\x22' ∈ tidied.filter (· == '\x22') :=
      hfilter ▸ List.mem_filter.mpr ⟨hkept, by decide⟩
    exact (List.mem_filter.mp hmem).1

/-! ### The texts of an array -/

namespace IsOneLine

theorem notMem (h : IsOneLine s) {c : Char} (hc : isSpecial false c ∨ c = '\r') : c ∉ s := by
  intro hm
  obtain ⟨hspecial, hreturn⟩ := h c hm
  rcases hc with hc | hc
  · simp [hspecial] at hc
  · exact hreturn hc

theorem isSealed (h : IsOneLine s) : IsSealed s :=
  isSealed_of_notMem (h.notMem (Or.inl (by decide))) (h.notMem (Or.inl (by decide)))

/-- Nothing is escaped in the text. -/
theorem quote_eq (h : IsOneLine s) (quoting : Quoting) :
    quoting.quote s = '\x22' :: (s ++ ['\x22']) := by
  have hplain : ∀ c ∈ s, isSpecial quoting.allowVariables c = false := fun c hc =>
    Bool.eq_false_iff.mpr fun hs => by
      simpa [(h c hc).1] using Text.isSpecial_false_of_isSpecial hs
  rw [Quoting.quote, Quoting.body, Text.escape_eq_self hplain, ite_self]

end IsOneLine

/-- A sign that does not belong to arrays stands in an array only if it stands in an item. -/
theorem notMem_arrayOf {c : Char} {ls : List Text} (hc : c ∉ ['@', '(', ',', ')'])
    (hls : ∀ l ∈ ls, c ∉ l) : c ∉ Literal.arrayOf [','] ls := by
  simp only [List.mem_cons, List.not_mem_nil, or_false, not_or] at hc
  intro hm
  rw [Literal.arrayOf, List.mem_cons, List.mem_cons, List.mem_append, List.mem_singleton] at hm
  rcases hm with hm | hm | hm | hm
  · exact hc.1 hm
  · exact hc.2.1 hm
  · rcases Text.mem_joinWith hm with hm | ⟨l, hl, hm⟩
    · exact hc.2.2.1 (List.mem_singleton.mp hm)
    · exact hls l hl hm
  · exact hc.2.2.2 hm

section Row

variable (hr : IsName r.name) (hcomment : r.comment = []) (hts : ∀ t ∈ ts, IsOneLine t)
  (hliteral : r.literal = Literal.arrayOf [','] (ts.map fun t => '\x22' :: (t ++ ['\x22'])))

include hr hcomment hts hliteral

/-- The quotes of the row of an array come in pairs, and no opening quote is mistaken. -/
theorem exists_quotesFrom_line (width : Nat) : ∃ pairs,
    quotesFrom (r.line standard width) standard.indent.length = pairEnds pairs ∧
    quotesWithin false (lead width r).length r.literal = pairEnds pairs ∧
    (∀ p ∈ pairs, ¬ opensNested (r.line standard width) p.1) ∧
    ((∀ p ∈ pairs, ¬ opensNested (r.line standard width) p.2) ↔ ∀ t ∈ ts, ¬ OpensField t) := by
  let items := Text.joinWith [','] (ts.map fun t => '\x22' :: (t ++ ['\x22']))
  let u := lead width r ++ ['@', '(']
  have hu : ¬ OpensField u := by
    have hsplit : u = lead width r ++ '@' :: ['('] := rfl
    rw [hsplit, OpensField, Text.suffix_append_cons_iff (by decide),
      Text.suffix_append_cons_iff (by decide)]
    decide
  obtain ⟨pairs, hquotes, hfirst, hlast⟩ :=
    exists_quotesWithin_joinWith (fun t ht => (hts t ht).isSealed) hu (')' :: standard.statementEnd)
  have hline : r.line standard width = u ++ (items ++ (')' :: standard.statementEnd)) := by
    rw [line_eq_lead_of_comment_eq_nil hcomment, hliteral]
    simp [u, items, Literal.arrayOf]
  have hpart (w : Text) (hw : ∀ odd pos, quotesWithin odd pos w = []) :
      quotesWithin false (lead width r).length ('@' :: '(' :: (items ++ w)) = pairEnds pairs := by
    have hcut : '@' :: '(' :: (items ++ w) = ['@', '('] ++ (items ++ w) := rfl
    rw [← hquotes, hcut, quotesWithin_append, quotesWithin_append, hw, List.append_nil]
    simp [quotesWithin, escapesNext, escapeLead, items, u]
  refine ⟨pairs, ?_, ?_, hline ▸ hfirst, hline ▸ hlast⟩
  · rw [quotesFrom_line hr, hliteral, Row.tail_of_comment_eq_nil hcomment]
    have hw : ∀ odd pos, quotesWithin odd pos (')' :: standard.statementEnd) = [] := by
      rintro (_ | _) pos <;> rfl
    simpa [Literal.arrayOf] using hpart _ hw
  · rw [hliteral]
    exact hpart [')'] (by rintro (_ | _) pos <;> rfl)

variable (width : Nat)

/-- Without a mistaken quote the texts of the row are unquoted. -/
theorem stripQuotes_line_textArray (hopens : ∀ t ∈ ts, ¬ OpensField t) :
    stripQuotes standard true r.name (r.line standard width) =
      .ok ((r.withLiteral (Literal.arrayOf [','] ts)).line standard width) := by
  obtain ⟨pairs, hfrom, hwithin, -, hlast⟩ := exists_quotesFrom_line hr hcomment hts hliteral width
  have hnone {c : Char} (hc : c ∉ ['@', '(', ',', ')']) (hs : isSpecial false c ∨ c = '\r') :
      c ∉ Literal.arrayOf [','] ts := notMem_arrayOf hc fun t ht => (hts t ht).notMem hs
  have hquote : '\x22' ∉ Literal.arrayOf [','] ts := hnone (by decide) (Or.inl (by decide))
  have hreturn : '\r' ∉ r.literal := by
    rw [hliteral]
    refine notMem_arrayOf (by decide) (List.forall_mem_map.mpr fun t ht => ?_)
    simp [(hts t ht).notMem (Or.inr rfl)]
  have hstop := statementStop_line hr hcomment hreturn width
  have hlt : ∀ p ∈ pairEnds pairs, p < (lead width r).length + r.literal.length := fun p hp =>
    (of_mem_quotesWithin (hwithin ▸ hp)).2.1
  refine stripQuotes_line hr hcomment (hnone (by decide) (Or.inr rfl))
    (hnone (by decide) (Or.inl (by decide))) (fun h => hquote (h.subset (by simp))) ?_
  have hpaired : boundaries (r.line standard width) standard.indent.length
      ((lead width r).length + r.literal.length) true = pairEnds pairs := by
    rw [boundaries, hfrom]
    refine boundariesFrom_pairEnds fun p hp => ⟨hlt _ ?_, (hlt _ ?_).le, hlast.mpr hopens p hp⟩
    · exact List.mem_flatMap.mpr ⟨p, hp, List.mem_cons_self⟩
    · exact List.mem_flatMap.mpr ⟨p, hp, by simp⟩
  have hdrop : dropQuotes false r.literal = Literal.arrayOf [','] ts := by
    rw [hliteral]
    exact (NamedValue.delimited_arrayOf fun t ht => (hts t ht).isSealed).dropQuotes_eq
  rw [hstop, hpaired, ← hwithin, line_eq_lead_of_comment_eq_nil hcomment, deleteAt_quotesWithin,
    hdrop, line_withLiteral_eq_lead hcomment]

/-- A mistaken quote stays in the row. -/
theorem quote_mem_of_stripQuotes_line {t : Text} (ht : t ∈ ts) (hopens : OpensField t)
    (h : stripQuotes standard true r.name (r.line standard width) = .ok stripped) :
    '\x22' ∈ stripped := by
  obtain ⟨pairs, hfrom, -, hfirst, hlast⟩ := exists_quotesFrom_line hr hcomment hts hliteral width
  obtain ⟨p, hp, hnested⟩ : ∃ p ∈ pairs, opensNested (r.line standard width) p.2 := by
    by_contra hnone
    push Not at hnone
    exact hlast.mp hnone t ht hopens
  have hget : (r.line standard width)[p.2]? = some '\x22' := by
    have hmem : p.2 ∈ quotesFrom (r.line standard width) standard.indent.length :=
      hfrom ▸ List.mem_flatMap.mpr ⟨p, hp, by simp⟩
    exact getElem?_of_mem_quotes (List.mem_of_mem_filter hmem)
  refine quote_mem_of_stripQuotes isBlank_of_mem_lineTerminator
    (findAssignment?_line_alone hr width) hget ?_ h
  rw [boundaries, hfrom]
  exact (notMem_boundariesFrom_pairEnds hnested fun p' hp' heq => hfirst p' hp' (heq ▸ hnested)).1

end Row

/-- **When an array is unquoted.** Composite stripping of an array of texts on one line, in which
nothing has to be escaped, takes off the quotes of all texts and changes nothing else exactly when
no text ends in an equals sign or in an equals sign and a blank. -/
theorem stripQuotes_textArray_iff (hname : IsName nv.name) (hplain : nv.IsUncommented standard)
    (hkind : nv.kind = none) (hvalue : nv.value = .list (ts.map .text))
    (hts : ∀ t ∈ ts, IsOneLine t) :
    WrittenWith {} (keyed [nv]) fun block =>
      block = textOf standard [(plainRow standard nv).withLiteral
        (Literal.arrayOf [','] (ts.map fun t => '\x22' :: (t ++ ['\x22'])))] ∧
      (stripQuotes standard true nv.name block =
        .ok (textOf standard [(plainRow standard nv).withLiteral (Literal.arrayOf [','] ts)]) ↔
          ∀ t ∈ ts, ¬ OpensField t) := by
  set own := plainRow standard nv with hown
  have hr : IsName own.name := hname
  have hcomment : own.comment = [] := comment_plainRow hplain
  have hliteral : own.literal =
      Literal.arrayOf [','] (ts.map fun t => '\x22' :: (t ++ ['\x22'])) := by
    have h : own.literal = Literal.arrayOf [','] (ts.map nv.quoting.quote) :=
      NamedValue.literal_of_texts hkind (questionFor?_eq_none_of_resolver rfl) hvalue
    rw [h, List.map_congr_left fun t ht => (hts t ht).quote_eq nv.quoting]
  refine writtenWith_singleton (by rw [hvalue]; rfl) hplain (by rw [hvalue]; rfl) ?_
  rw [← hown, ← hliteral]
  refine ⟨(textOf_singleton standard own).symm, ?_⟩
  rw [textOf_singleton_withLiteral]
  constructor
  · intro h t ht hopens
    have hmem := quote_mem_of_stripQuotes_line hr hcomment hts hliteral _ ht hopens h
    have hlead : '\x22' ∉ lead (nameWidth standard [own]) own := by
      rw [lead, List.mem_append, not_or]
      exact ⟨by decide, notMem_header hr.quote_notMem (by decide) (by decide)⟩
    have hquote : '\x22' ∉ Literal.arrayOf [','] ts :=
      notMem_arrayOf (by decide) fun t ht => (hts t ht).notMem (Or.inl (by decide))
    have hend : '\x22' ∉ standard.statementEnd := by decide
    rw [line_withLiteral_eq_lead hcomment] at hmem
    simp [hlead, hquote, hend] at hmem
  · exact stripQuotes_line_textArray hr hcomment hts hliteral _

/-- Equals signs in other places, a comma, single quotes and a text without characters. -/
theorem stripQuotes_textArray_iff_unquoted :
    let nv : NamedValue :=
      { name := ['N'], value := .list [.text "a=b, 'c'".toList, .text [], .text "= d=  ".toList] }
    ∃ block, (render {} (keyed [nv])).outcome = .ok block ∧
      block = textOf standard [(plainRow standard nv).withLiteral
        "@(\"a=b, 'c'\",\"\",\"= d=  \")".toList] ∧
      stripQuotes standard true ['N'] block = .ok (textOf standard
        [(plainRow standard nv).withLiteral "@(a=b, 'c',,= d=  )".toList]) := by
  intro nv
  have hvalue : nv.value = .list (["a=b, 'c'".toList, [], "= d=  ".toList].map .text) := rfl
  have hsurviving : surviving (keyed [nv]) = keyed [nv] :=
    surviving_eq_of_perm (.refl _) (by decide)
  have houtcome : (render {} (keyed [nv])).outcome = .ok (textOf standard
      [(plainRow standard nv).withLiteral "@(\"a=b, 'c'\",\"\",\"= d=  \")".toList]) := by
    rw [render, commentsOf, printed, hsurviving]
    rfl
  have hwritten := stripQuotes_textArray_iff (by decide) (by decide) rfl hvalue (by decide)
  rw [WrittenWith, houtcome] at hwritten
  exact ⟨_, houtcome, rfl, hwritten.2.mpr (by decide)⟩

/-- The closing quote of a text that ends in an equals sign is mistaken for an opening quote, and
the opening quote of the next text is passed over with it. -/
theorem stripQuotes_textArray_mistaken :
    let nv : NamedValue := { name := ['N'], value := .list [.text ['a', '='], .text ['b']] }
    (∀ t ∈ [['a', '='], ['b']], IsOneLine t) ∧ ∃ block stripped,
      (render {} (keyed [nv])).outcome = .ok block ∧
      block = textOf standard [plainRow standard nv] ∧
      stripQuotes standard true ['N'] block = .ok stripped ∧
      stripped = textOf standard [(plainRow standard nv).withLiteral "@(a=\",\"b)".toList] ∧
      stripped ≠ textOf standard [(plainRow standard nv).withLiteral "@(a=,b)".toList] := by
  intro nv
  have hsurviving : surviving (keyed [nv]) = keyed [nv] :=
    surviving_eq_of_perm (.refl _) (by decide)
  refine ⟨by decide, _, _, ?_, rfl, ?_, rfl, ?_⟩
  · rw [render, commentsOf, printed, hsurviving]
    rfl
  · decide
  · decide

end ResourceScript.Unquote

import ResourceScript.Proofs.Block.Line
import ResourceScript.Proofs.Block.Literal
import ResourceScript.Proofs.Literal.Readback

/-!
# Reading a block back

The text of a block tells the values that it was written from. A line is read from left to right:
the indentation is known, the name ends with the first blank, the equals sign ends the padding,
whatever width the names were padded to, and the literal and the line terminator delimit themselves.
So the lines are read one after another, although the texts in them may hold quotes, separators,
line terminators and whole lines.

## Main definitions

* `Block.Row.Shows`: a row without comment shows a value under a name.
* `Block.valueUnder?`: the value that survives under a name.
* `NamedValue.IsReadable`: the named values whose literals can be read back.

## Main results

* `Block.Row.Shows.line_append_inj`, `Block.linesOf_inj`: lines are read back.
* `Block.valueUnder?_eq_some_iff`: the printed values are those that survive.
* `Block.valueUnder?_eq_of_outcome_eq`: a block determines the values that survive.
-/

namespace ResourceScript

open Text (IsName)
open Literal (IsWritten)

namespace Block

variable {settings : Settings} {width width' : Nat} {r r' : Row} {rows rows' : List Row}
  {name name' s t : Text} {v v' : Value} {es es' : List (Text × Value)}

/-! ### Lines -/

/-- A row without comment shows a value under a name. -/
structure Row.Shows (r : Row) (name : Text) (v : Value) : Prop where
  name_eq : r.name = name
  isName : IsName name
  comment_eq : r.comment = []
  isWritten : IsWritten v r.literal

/-- The name before the padding is read back, and so is what follows the padding. -/
theorem header_append_inj (hr : IsName r.name) (hr' : IsName r'.name)
    (h : r.header width ++ s = r'.header width' ++ t) : r.name = r'.name ∧ s = t := by
  have hblank {r : Row} (hr : IsName r.name) : ∀ c ∈ r.name, (c == ' ') = false := fun c hc =>
    beq_eq_false_iff_ne.mpr fun heq => hr.blank_notMem (heq ▸ hc)
  have hpadding (k : Nat) : ∀ c ∈ List.replicate k ' ', (c == '=') = false := fun c hc => by
    rw [List.eq_of_mem_replicate hc]
    rfl
  simp only [Row.header, List.append_assoc, List.cons_append, List.nil_append] at h
  obtain ⟨hname, -, hrest⟩ := Text.append_cons_inj (hblank hr) (hblank hr') rfl rfl h
  obtain ⟨-, -, hrest⟩ := Text.append_cons_inj (hpadding _) (hpadding _) rfl rfl hrest
  exact ⟨hname, (List.cons.inj hrest).2⟩

/-- **Reading a line.** The name and the value of a line and what follows the line are determined by
the whole. -/
theorem Row.Shows.line_append_inj (h : r.Shows name v) (h' : r'.Shows name' v')
    (heq : r.line settings width ++ s = r'.line settings width' ++ t) :
    name = name' ∧ v = v' ∧ s = t := by
  have hsplit {r : Row} (hcomment : r.comment = []) (width : Nat) (u : Text) :
      r.line settings width ++ u = settings.indent ++ (r.header width ++
        (r.literal ++ ';' :: (settings.lineTerminator ++ u))) := by
    rw [Row.line_eq, Row.tail_of_comment_eq_nil hcomment, Settings.statementEnd]
    simp only [List.append_assoc, List.cons_append]
  rw [hsplit h.comment_eq, hsplit h'.comment_eq] at heq
  have hheader := List.append_cancel_left heq
  obtain ⟨hname, hliteral⟩ :=
    header_append_inj (h.name_eq ▸ h.isName) (h'.name_eq ▸ h'.isName) hheader
  obtain ⟨hvalue, -, hrest⟩ := h.isWritten.append_cons_inj h'.isWritten rfl rfl hliteral
  exact ⟨by rw [← h.name_eq, hname, h'.name_eq], hvalue, List.append_cancel_left hrest⟩

private theorem line_append_ne_nil : r.line settings width ++ s ≠ [] := by
  rw [Row.line_eq, Row.header]
  simp

/-- **Reading lines one after another.** Rows that show names with values tell them by their
lines. -/
theorem linesOf_inj (h : List.Forall₂ (fun e r => Row.Shows r e.1 e.2) es rows)
    (h' : List.Forall₂ (fun e r => Row.Shows r e.1 e.2) es' rows')
    (heq : linesOf settings width rows = linesOf settings width' rows') : es = es' := by
  induction h generalizing es' rows' with
  | nil =>
    cases h' with
    | nil => rfl
    | cons h' _ => exact absurd heq.symm line_append_ne_nil
  | @cons e r es rows h hs ih =>
    cases h' with
    | nil => exact absurd heq line_append_ne_nil
    | @cons e' r' es' rows' h' hs' =>
      rw [linesOf_cons, linesOf_cons] at heq
      obtain ⟨hname, hvalue, hrest⟩ := h.line_append_inj h' heq
      rw [Prod.ext hname hvalue, ih hs' hrest]

/-! ### Surviving values -/

/-- The value that survives under a name: the last one that is given, unless that is `null`. -/
def valueUnder? (values : List NamedValue) (name : Text) : Option Value :=
  ((values.reverse.find? (·.name = name)).map (·.value)).filter (!·.isNull)

variable {values values' : List NamedValue} {nv : NamedValue}

/-- The printed values are the last ones under their names, `null` left out. -/
theorem mem_printed_iff (hname : ¬ isMetadata settings nv.name) :
    nv ∈ printed settings (keyed values) ↔
      values.reverse.find? (·.name = nv.name) = some nv ∧ nv.value.isNull = false := by
  rw [← lastUnder?_keyed, ← mem_surviving_iff, printed, List.mem_map]
  constructor
  · rintro ⟨⟨key, nv'⟩, hmem, rfl⟩
    have hkey := (List.mem_filter.mp hmem).1
    rwa [(eq_of_mem_surviving hkey).1] at hkey
  · intro hmem
    exact ⟨(nv.name, nv), List.mem_filter.mpr ⟨hmem, by simpa using hname⟩, rfl⟩

/-- Without metadata the values that survive are printed. -/
theorem valueUnder?_eq_some_iff (hvalues : ∀ nv ∈ values, ¬ isMetadata settings nv.name) :
    valueUnder? values name = some v ↔
      ∃ nv ∈ printed settings (keyed values), nv.name = name ∧ nv.value = v := by
  constructor
  · intro h
    obtain ⟨hvalue, hnull⟩ := Option.filter_eq_some_iff.mp h
    obtain ⟨nv, hnv, rfl⟩ := Option.map_eq_some_iff.mp hvalue
    obtain rfl : nv.name = name := by simpa using List.find?_some hnv
    have hname := hvalues nv (List.mem_reverse.mp (List.mem_of_find?_eq_some hnv))
    exact ⟨nv, (mem_printed_iff hname).mpr ⟨hnv, by simpa using hnull⟩, rfl, rfl⟩
  · rintro ⟨nv, hnv, rfl, rfl⟩
    obtain ⟨hfind, hnull⟩ := (mem_printed_iff (mem_of_mem_printed hnv).2).mp hnv
    rw [valueUnder?, hfind]
    simp [hnull]

end Block

/-! ### Readable values -/

/-- The integer that a value is. -/
def Value.asInt? : Value → Option Int
  | .int n => some n
  | _ => none

theorem Value.eq_int_of_asInt? {v : Value} {n : Int} (h : v.asInt? = some n) : v = .int n := by
  cases v with
  | int m => exact congrArg Value.int (Option.some.inj h)
  | _ => exact absurd h (by simp [Value.asInt?])

/-- Whether a value is `null`, a text, a truth value, an integer, a list of texts or a list of
integers. -/
def Value.isReadable : Value → Bool
  | .null | .text _ | .bool _ | .int _ => true
  | .list items => items.all (·.asText?.isSome) || items.all (·.asInt?.isSome)
  | _ => false

namespace NamedValue

/-- A value of these kinds that is escaped, under a name, without a declared kind or comments. -/
structure IsReadable (settings : Settings) (nv : NamedValue) : Prop
    extends nv.IsUncommented settings where
  isName : IsName nv.name
  kind_eq : nv.kind = none
  escaped : nv.quoting.noEscape = false
  isReadable : nv.value.isReadable

instance (settings : Settings) (nv : NamedValue) : Decidable (nv.IsReadable settings) :=
  decidable_of_iff (nv.IsUncommented settings ∧ IsName nv.name ∧ nv.kind = none ∧
    nv.quoting.noEscape = false ∧ nv.value.isReadable)
    ⟨fun ⟨hu, hn, hk, he, hv⟩ => ⟨hu, hn, hk, he, hv⟩,
      fun ⟨hu, hn, hk, he, hv⟩ => ⟨hu, hn, hk, he, hv⟩⟩

variable {settings : Settings} {nv : NamedValue} {ctx : Block.Context}

/-- The literal of a readable value can be read back, whatever is answered about it. -/
theorem IsReadable.isWritten (h : nv.IsReadable settings) (hnull : nv.value.isNull = false)
    (ctx : Block.Context) : IsWritten nv.value (Block.rowLiteral ctx nv).literal := by
  have hvalue := h.isReadable
  cases hv : nv.value with
  | null => simp [hv, Value.isNull] at hnull
  | text s =>
    rw [literal_of_text h.kind_eq hv, Quoting.quote_of_escaped h.escaped]
    exact .item (.text _ s)
  | bool b =>
    rw [literal_of_bool h.kind_eq hv]
    exact .bool b
  | int n =>
    rw [literal_of_int h.kind_eq hv]
    exact .item (.int n)
  | list items =>
    cases items with
    | nil =>
      have hnil : (Block.rowLiteral ctx nv).literal = Literal.arrayOf [','] [] ∨
          (Block.rowLiteral ctx nv).literal = ['[', ']'] := literal_of_nil hv
      rcases hnil with hliteral | hliteral
      · exact hliteral ▸ .list .nil
      · exact hliteral ▸ .unanswered
    | cons v items =>
      have hquestion : Block.questionFor? ctx nv = none :=
        Block.questionFor?_eq_none (by rw [hv]; rfl)
      rw [hv, Value.isReadable, Bool.or_eq_true] at hvalue
      rcases hvalue with hvalue | hvalue
      · obtain ⟨ts, hts⟩ := Value.exists_map_of_all (fun _ _ => Value.eq_text_of_asText?) hvalue
        rw [literal_of_texts h.kind_eq hquestion (hv.trans (congrArg Value.list hts)), hts]
        exact Literal.isWritten_list_map
          (fun s => Quoting.quote_of_escaped h.escaped s ▸ .text _ s) ts
      · obtain ⟨ns, hns⟩ := Value.exists_map_of_all (fun _ _ => Value.eq_int_of_asInt?) hvalue
        obtain ⟨n, ns, rfl⟩ : ∃ m ms, ns = m :: ms :=
          List.exists_cons_of_ne_nil fun hnil => by simp [hnil] at hns
        rw [literal_of_ints h.kind_eq (hv.trans (congrArg Value.list hns)), hns]
        exact Literal.isWritten_list_map .int (n :: ns)
  | _ => simp [hv, Value.isReadable] at hvalue

end NamedValue

/-! ### Blocks -/

namespace Block

variable {ctx ctx' : Context} {values values' : List NamedValue} {block : Text}

/-- The rows of a block of readable values show them. -/
theorem forall₂_shows_rowsOf (hvalues : ∀ nv ∈ values, nv.IsReadable ctx.settings) :
    List.Forall₂ (fun e r => Row.Shows r e.1 e.2)
      ((printed ctx.settings (keyed values)).map fun nv => (nv.name, nv.value))
      (rowsOf ctx (keyed values)) := by
  have hcomments : commentsOf ctx (keyed values) = .ok [] :=
    commentsOf_of_not_isMetadata fun nv hnv => (hvalues nv hnv).not_metadata
  rw [rowsOf, hcomments, List.forall₂_map_left_iff, List.forall₂_map_right_iff, List.forall₂_same]
  intro nv hnv
  obtain ⟨hmem, hmetadata⟩ := mem_of_mem_printed hnv
  have hreadable := hvalues nv hmem
  have hnull := ((mem_printed_iff hmetadata).mp hnv).2
  refine ⟨rfl, hreadable.isName, ?_, hreadable.isWritten hnull ctx⟩
  rw [rowOf, commentOn, hreadable.comment_eq]
  rfl

/-- **A block determines its values.** If two lists of named values give the same block under the
same settings, then the same names survive in both, and with the same values. -/
theorem valueUnder?_eq_of_outcome_eq (hsettings : ctx.settings = ctx'.settings)
    (hvalues : ∀ nv ∈ values, nv.IsReadable ctx.settings)
    (hvalues' : ∀ nv ∈ values', nv.IsReadable ctx.settings)
    (h : (render ctx (keyed values)).outcome = .ok block)
    (h' : (render ctx' (keyed values')).outcome = .ok block) (name : Text) :
    valueUnder? values name = valueUnder? values' name := by
  have hshows := forall₂_shows_rowsOf hvalues
  have hshows' : List.Forall₂ (fun e r => Row.Shows r e.1 e.2)
      ((printed ctx'.settings (keyed values')).map fun nv => (nv.name, nv.value))
      (rowsOf ctx' (keyed values')) := forall₂_shows_rowsOf (hsettings ▸ hvalues')
  have hlines := (eq_textOf_of_outcome_eq_ok h).symm.trans (eq_textOf_of_outcome_eq_ok h')
  rw [textOf_eq_linesOf, textOf_eq_linesOf, ← hsettings] at hlines
  rw [← hsettings] at hshows'
  have hprinted := linesOf_inj hshows hshows' hlines
  have hmem {values : List NamedValue} (hvalues : ∀ nv ∈ values, nv.IsReadable ctx.settings)
      (v : Value) : valueUnder? values name = some v ↔
        (name, v) ∈ (printed ctx.settings (keyed values)).map fun nv => (nv.name, nv.value) := by
    rw [valueUnder?_eq_some_iff fun nv hnv => (hvalues nv hnv).not_metadata, List.mem_map]
    simp only [Prod.mk.injEq]
  ext v
  rw [hmem hvalues, hmem hvalues', hprinted]

/-- A replaced value, a text with a whole line in it, and a list that is escaped in two ways. -/
theorem valueUnder?_eq_of_outcome_eq_replaced :
    let replaced : NamedValue := { name := ['A'], value := .int 1 }
    let a : NamedValue := { name := ['A'], value := .text "\";\r\nB = \"".toList }
    let b : NamedValue := { name := ['B'], value := .list [.text [','], .text ['\x22']] }
    let b' : NamedValue := { b with quoting := { allowVariables := true } }
    ∃ block, (render {} (keyed [replaced, b, a])).outcome = .ok block ∧
      (render {} (keyed [a, b'])).outcome = .ok block ∧
      ∀ name, valueUnder? [replaced, b, a] name = valueUnder? [a, b'] name := by
  intro replaced a b b'
  have hsurviving : surviving (keyed [replaced, b, a]) = keyed [a, b] :=
    surviving_eq_of_perm (.refl _) (by decide)
  have hsurviving' : surviving (keyed [a, b']) = keyed [a, b'] :=
    surviving_eq_of_perm (.refl _) (by decide)
  have h : (render {} (keyed [replaced, b, a])).outcome =
      .ok (textOf .standard [plainRow .standard a, plainRow .standard b]) := by
    rw [render, commentsOf, printed, hsurviving]
    rfl
  have h' : (render {} (keyed [a, b'])).outcome =
      .ok (textOf .standard [plainRow .standard a, plainRow .standard b]) := by
    rw [render, commentsOf, printed, hsurviving']
    rfl
  exact ⟨_, h, h', valueUnder?_eq_of_outcome_eq rfl (by decide) (by decide) h h'⟩

end Block

end ResourceScript

import Mathlib.Data.Set.List
import ResourceScript.Proofs.Block.Surviving
import ResourceScript.Proofs.Block.Writing
import ResourceScript.Proofs.Steps
import ResourceScript.Proofs.Text.Name

/-!
# The rows of a block

Named values that are given one after the other are held under their own names, so that no two rows
of their block have the same name. Their block is written unless a comment or a literal has no text
form or the column of names is too wide.

## Main definitions

* `Block.keyed`: named values under their own names.
* `Block.rowsOf`: the rows of a block.
* `Block.HasFormlessComment`: a comment that is to be written has no text form.
* `Block.columnWidth`: the width of a column of names.
* `Block.rowFailure?`, `Block.firstFailure?`: why the row of a value cannot be written, and why the
  first such row cannot.
* `Block.WrittenWith`: a block is written and has a property.
* `NamedValue.IsUncommented`, `Block.plainRow`: values without comments and their rows.
* `NamedValue.IsText`: a named text that is written escaped.

## Main results

* `Block.pairwise_name_printed`: no two rows have the same name.
* `Block.exists_commentsOf_eq_error_iff`: when there are no comments.
* `Block.outcome_render`: what a block fails for, and what is written if it does not fail.
* `Block.writtenWith`: the text of a block is that of its rows.
-/

namespace ResourceScript

namespace Block

/-- Named values under their own names. -/
def keyed (values : List NamedValue) : List (Text × NamedValue) :=
  values.map fun nv => (nv.name, nv)

/-- The rows of a block. -/
def rowsOf (ctx : Context) (values : List (Text × NamedValue)) : List Row :=
  (printed ctx.settings values).map (rowOf ctx ((commentsOf ctx values).toOption.getD []))

/-- A comment that is to be written has no text form: metadata without one survives. -/
def HasFormlessComment (ctx : Context) (values : List (Text × NamedValue)) : Prop :=
  ctx.excludeMetadata = false ∧ ∃ key nv, lastUnder? values key = some nv ∧
    nv.value.isNull = false ∧ isMetadata ctx.settings key ∧ nv.value.plainForm? = none

/-- The width of a column of names: the least width, or the length of the longest name. -/
def columnWidth (settings : Settings) (names : List Text) : Nat :=
  max settings.minNameWidth ((names.map List.length).max?.getD 0)

/-- Why the row of a value in a block cannot be written. -/
def rowFailure? (settings : Settings) (values : List (Text × NamedValue)) (nv : NamedValue) :
    Option Failure :=
  failureAt? (columnWidth settings ((printed settings values).map (·.name))) nv.value

/-- Why the first row that cannot be written cannot be written, if there is one. -/
def firstFailure? (settings : Settings) (values : List (Text × NamedValue)) : Option Failure :=
  (printed settings values).findSome? (rowFailure? settings values)

/-- A block is written, and its text has a property, unless its column of names is too wide. -/
def WrittenWith (ctx : Context) (values : List (Text × NamedValue)) (P : Text → Prop) : Prop :=
  match (render ctx values).outcome with
  | .ok block => P block
  | .error failure =>
    failure = .uncountableWidth ∧ uncountableWidth ≤ nameWidth ctx.settings (rowsOf ctx values)

variable {ctx : Context} {settings : Settings} {values : List NamedValue} {nv : NamedValue}

/-! ### Names -/

/-- Under its own name, the last of the named values is the last one with that name. -/
theorem lastUnder?_keyed (values : List NamedValue) (name : Text) :
    lastUnder? (keyed values) name = values.reverse.find? (·.name = name) := by
  rw [lastUnder?, keyed, ← List.map_reverse, List.find?_map, Option.map_map]
  exact Option.map_id'

theorem eq_of_mem_surviving {key : Text} (h : (key, nv) ∈ surviving (keyed values)) :
    key = nv.name ∧ nv ∈ values := by
  have hmem : (key, nv) ∈ keyed values :=
    Entries.mem_of_mem_ofList (List.mem_mergeSort.mp (List.mem_filter.mp h).1)
  obtain ⟨nv', hnv, heq⟩ := List.mem_map.mp hmem
  obtain ⟨rfl, rfl⟩ := Prod.mk.inj heq
  exact ⟨rfl, hnv⟩

theorem mem_of_mem_printed (h : nv ∈ printed settings (keyed values)) :
    nv ∈ values ∧ ¬ isMetadata settings nv.name := by
  obtain ⟨⟨key, nv'⟩, hmem, rfl⟩ := List.mem_map.mp h
  obtain ⟨hsurviving, hkey⟩ := List.mem_filter.mp hmem
  obtain ⟨rfl, hnv⟩ := eq_of_mem_surviving hsurviving
  exact ⟨hnv, by simpa using hkey⟩

/-- The printed values stand in the strict order of their names. -/
theorem pairwise_le_printed (settings : Settings) (values : List NamedValue) :
    (printed settings (keyed values)).Pairwise
      fun nv nv' => Text.le nv.name nv'.name ∧ nv.name ≠ nv'.name := by
  rw [printed, List.pairwise_map]
  refine ((pairwise_surviving (keyed values)).filter _).imp_of_mem fun {a b} ha hb hab => ?_
  obtain ⟨ha', -⟩ := eq_of_mem_surviving (List.mem_filter.mp ha).1
  obtain ⟨hb', -⟩ := eq_of_mem_surviving (List.mem_filter.mp hb).1
  rwa [ha', hb'] at hab

/-- No two printed values have the same name. -/
theorem pairwise_name_printed (settings : Settings) (values : List NamedValue) :
    (printed settings (keyed values)).Pairwise (·.name ≠ ·.name) :=
  (pairwise_le_printed settings values).imp And.right

/-- Around one of several values with different names stand values with other names. -/
theorem name_ne_of_pairwise {before after : List NamedValue}
    (h : (before ++ nv :: after).Pairwise (·.name ≠ ·.name)) :
    (∀ m ∈ before, nv.name ≠ m.name) ∧ ∀ m ∈ after, nv.name ≠ m.name := by
  obtain ⟨-, hafter, hbefore⟩ := List.pairwise_append.mp h
  exact ⟨fun m hm => (hbefore m hm nv List.mem_cons_self).symm, (List.pairwise_cons.mp hafter).1⟩

/-- The names of the rows before and after a row are other names. -/
theorem name_ne_of_printed_eq {before after : List NamedValue}
    (h : printed settings (keyed values) = before ++ nv :: after) :
    (∀ m ∈ before, nv.name ≠ m.name) ∧ ∀ m ∈ after, nv.name ≠ m.name :=
  name_ne_of_pairwise (h ▸ pairwise_name_printed settings values)

/-! ### Comments -/

/-- There are no comments exactly if one of them has no text form. -/
theorem exists_commentsOf_eq_error_iff {values : List (Text × NamedValue)} :
    (∃ e, commentsOf ctx values = .error e) ↔ HasFormlessComment ctx values := by
  have hfails (key : Text) (nv : NamedValue) : (∃ e, (Literal.plainForm nv.value).map
      (fun s => (key.drop ctx.settings.metadataLead.length, s)) = .error e) ↔
        nv.value.plainForm? = none := by
    rw [← Literal.exists_plainForm_eq_error_iff]
    cases Literal.plainForm nv.value <;> simp [Except.map]
  rw [commentsOf, HasFormlessComment]
  split
  · next hexclude => simp [hexclude]
  · next hexclude =>
    rw [Bool.not_eq_true] at hexclude
    simp [exists_mapM_eq_error_iff, hfails, mem_surviving_iff, and_assoc, hexclude]

/-- Otherwise there are comments. -/
theorem exists_commentsOf_eq_ok {values : List (Text × NamedValue)}
    (h : ¬ HasFormlessComment ctx values) : ∃ comments, commentsOf ctx values = .ok comments := by
  cases hcomments : commentsOf ctx values with
  | ok comments => exact ⟨comments, rfl⟩
  | error e => exact absurd (exists_commentsOf_eq_error_iff.mp ⟨e, hcomments⟩) h

/-- Comments have a text form when all metadata has one. -/
theorem not_hasFormlessComment
    (h : ∀ nv ∈ values, isMetadata ctx.settings nv.name → nv.value.plainForm?.isSome) :
    ¬ HasFormlessComment ctx (keyed values) := by
  rintro ⟨-, key, nv, hlast, hnull, hkey, hform⟩
  obtain ⟨rfl, hnv⟩ := eq_of_mem_surviving (mem_surviving_iff.mpr ⟨hlast, hnull⟩)
  have hsome := h nv hnv hkey
  rw [hform] at hsome
  exact absurd hsome Bool.false_ne_true

/-- Each comment besides those of the values themselves is the text form of metadata. -/
theorem exists_of_mem_commentsOf {comments : List (Text × Text)} {key s : Text}
    (h : commentsOf ctx (keyed values) = .ok comments) (hs : (key, s) ∈ comments) :
    ∃ nv ∈ values, isMetadata ctx.settings nv.name ∧ nv.value.plainForm? = some s := by
  rw [commentsOf] at h
  split at h
  · obtain rfl : [] = comments := Except.ok.inj h
    exact absurd hs List.not_mem_nil
  · obtain ⟨⟨key', nv⟩, hmem, hform⟩ := exists_of_mapM_eq_ok h hs
    obtain ⟨form, hplain, heq⟩ := map_eq_ok_iff.mp hform
    obtain ⟨hsurviving, hkey⟩ := List.mem_filter.mp hmem
    obtain ⟨rfl, hnv⟩ := eq_of_mem_surviving hsurviving
    exact ⟨nv, hnv, hkey, by rw [Literal.plainForm_eq_ok_iff.mp hplain, (Prod.mk.inj heq).2]⟩

/-- The comment on a row is its own one, one of the given comments, or empty. -/
theorem commentOn_eq (comments : List (Text × Text)) (nv : NamedValue) :
    commentOn comments nv = nv.comment.getD [] ∨ commentOn comments nv = [] ∨
      ∃ key, (key, commentOn comments nv) ∈ comments := by
  have hlookup : (comments.lookup nv.name).getD [] = [] ∨
      ∃ key, (key, (comments.lookup nv.name).getD []) ∈ comments := by
    cases hs : comments.lookup nv.name with
    | none => exact Or.inl rfl
    | some s =>
      obtain ⟨l, l', heq, -⟩ := List.lookup_eq_some_iff.mp hs
      exact Or.inr ⟨nv.name, heq ▸ List.mem_append_right l List.mem_cons_self⟩
  rw [commentOn]
  rcases nv.comment with _ | _ | ⟨c, s⟩
  · exact Or.inr hlookup
  · exact Or.inr hlookup
  · exact Or.inl rfl

/-- Without metadata there are no comments besides those of the values themselves. -/
theorem commentsOf_of_not_isMetadata (h : ∀ nv ∈ values, ¬ isMetadata ctx.settings nv.name) :
    commentsOf ctx (keyed values) = .ok [] := by
  have hnil : (surviving (keyed values)).filter (isMetadata ctx.settings ·.1) = [] := by
    refine List.filter_eq_nil_iff.mpr fun ⟨key, nv⟩ hmem => ?_
    obtain ⟨rfl, hnv⟩ := eq_of_mem_surviving hmem
    exact h nv hnv
  rw [commentsOf, hnil]
  split <;> rfl

/-! ### The text of a block -/

theorem nameWidth_eq_columnWidth (settings : Settings) (rows : List Row) :
    nameWidth settings rows = columnWidth settings (rows.map (·.name)) := by
  have hfold : nameWidth settings rows =
      (rows.map (·.name.length)).foldl max settings.minNameWidth := by
    rw [nameWidth, List.foldl_map]
  rw [hfold, columnWidth, List.map_map, List.foldl_max]
  cases rows <;> simp [Function.comp_def, List.max?_cons]

theorem map_name_rowsOf (ctx : Context) (values : List (Text × NamedValue)) :
    (rowsOf ctx values).map (·.name) = (printed ctx.settings values).map (·.name) := by
  rw [rowsOf, List.map_map]
  rfl

theorem nameWidth_map_eq {rows rows' : List Row} (h : rows.map (·.name) = rows'.map (·.name)) :
    nameWidth settings rows = nameWidth settings rows' := by
  rw [nameWidth_eq_columnWidth, nameWidth_eq_columnWidth, h]

/-- With its comments, a block is written row by row. -/
theorem render_eq_writeRows {values : List (Text × NamedValue)} {comments : List (Text × Text)}
    (h : commentsOf ctx values = .ok comments) : render ctx values = writeRows ctx.settings
      (columnWidth ctx.settings ((printed ctx.settings values).map (·.name)))
      (rowsOf ctx values) := by
  rw [← map_name_rowsOf ctx, ← nameWidth_eq_columnWidth, render, rowsOf, h]
  rfl

/-- **The outcome of a block.** Comments are made first, then the first row that cannot be written
tells the failure. A block that does not fail consists of all of its rows. -/
theorem outcome_render (ctx : Context) (values : List (Text × NamedValue)) :
    (render ctx values).outcome =
      match commentsOf ctx values, firstFailure? ctx.settings values with
      | .error e, _ => .error (.comment e)
      | .ok _, some failure => .error failure
      | .ok _, none => .ok (textOf ctx.settings (rowsOf ctx values)) := by
  cases hc : commentsOf ctx values with
  | error e => rw [render, hc]
  | ok comments =>
    have hfirst : (rowsOf ctx values).findSome? (·.failure? (columnWidth ctx.settings
        ((printed ctx.settings values).map (·.name)))) = firstFailure? ctx.settings values := by
      rw [rowsOf, List.findSome?_map]
      simp only [Function.comp_def, failure?_rowOf]
      rfl
    rw [render_eq_writeRows hc, writeRows_eq, hfirst, textOf, nameWidth_eq_columnWidth,
      map_name_rowsOf]
    cases firstFailure? ctx.settings values <;> rfl

/-- The text of a block is that of its rows. -/
theorem writtenWith {values : List (Text × NamedValue)} {P : Text → Prop}
    (hcomments : ¬ HasFormlessComment ctx values)
    (hliterals : ∀ nv ∈ printed ctx.settings values, nv.value.literalFault? = none)
    (h : P (textOf ctx.settings (rowsOf ctx values))) : WrittenWith ctx values P := by
  obtain ⟨comments, hc⟩ := exists_commentsOf_eq_ok hcomments
  rw [WrittenWith, outcome_render, hc]
  cases hfirst : firstFailure? ctx.settings values with
  | none => exact h
  | some failure =>
    obtain ⟨nv, hnv, hfailure⟩ := List.exists_of_findSome?_eq_some hfirst
    rw [rowFailure?, failureAt?, hliterals nv hnv] at hfailure
    split at hfailure
    · next hwidth =>
      refine ⟨(Option.some.inj hfailure).symm, ?_⟩
      rwa [nameWidth_eq_columnWidth, map_name_rowsOf]
    · exact absurd hfailure (by simp)

/-- A block that is written consists of its rows, of which none is left out. -/
theorem render_eq_of_outcome_eq_ok {values : List (Text × NamedValue)} {block : Text}
    (h : (render ctx values).outcome = .ok block) : render ctx values =
      renderingOf (.ok (textOf ctx.settings (rowsOf ctx values))) (rowsOf ctx values) := by
  have houtcome := outcome_render ctx values
  rw [h] at houtcome
  split at houtcome
  · exact absurd houtcome (by simp)
  · exact absurd houtcome (by simp)
  · next comments hc hfirst =>
    have hwritten (r : Row) (hr : r ∈ rowsOf ctx values) : (r.failure? (columnWidth ctx.settings
        ((printed ctx.settings values).map (·.name)))).isSome = false := by
      obtain ⟨nv, hnv, rfl⟩ := List.mem_map.mp hr
      rw [failure?_rowOf, ← rowFailure?, List.findSome?_eq_none_iff.mp hfirst nv hnv,
        Option.isSome_none]
    have hrender : render ctx values =
        renderingOf (render ctx values).outcome (rowsOf ctx values) := by
      rw [render_eq_writeRows hc, writeRows_eq, upTo_eq_self hwritten]
      rfl
    rw [hrender, h, houtcome]

theorem eq_textOf_of_outcome_eq_ok {values : List (Text × NamedValue)} {block : Text}
    (h : (render ctx values).outcome = .ok block) :
    block = textOf ctx.settings (rowsOf ctx values) := by
  rw [render_eq_of_outcome_eq_ok h] at h
  exact (Except.ok.inj h).symm

end Block

namespace NamedValue

/-! ### Values without comments -/

/-- A named value that has no comment and that is no comment. -/
structure IsUncommented (settings : Settings) (nv : NamedValue) : Prop where
  comment_eq : nv.comment = none
  not_metadata : ¬ Block.isMetadata settings nv.name

instance (settings : Settings) (nv : NamedValue) : Decidable (nv.IsUncommented settings) :=
  decidable_of_iff (nv.comment = none ∧ ¬ Block.isMetadata settings nv.name)
    ⟨fun ⟨hc, hm⟩ => ⟨hc, hm⟩, fun ⟨hc, hm⟩ => ⟨hc, hm⟩⟩

end NamedValue

namespace Block

variable {settings : Settings} {values : List NamedValue} {nv : NamedValue}

/-- The row of a value in a block without comments. -/
def plainRow (settings : Settings) (nv : NamedValue) : Row := rowOf { settings } [] nv

theorem comment_plainRow (h : nv.IsUncommented settings) : (plainRow settings nv).comment = [] := by
  rw [plainRow, rowOf, commentOn, h.comment_eq]
  rfl

/-- The text of a block without comments. -/
theorem writtenWith_plainRow {P : Text → Prop}
    (hvalues : ∀ nv ∈ values, nv.IsUncommented settings ∧ nv.value.literalFault? = none)
    (h : P (textOf settings ((printed settings (keyed values)).map (plainRow settings)))) :
    WrittenWith { settings } (keyed values) P := by
  have hcomments : commentsOf { settings } (keyed values) = .ok [] :=
    commentsOf_of_not_isMetadata fun nv hnv => (hvalues nv hnv).1.not_metadata
  have hformed : ¬ HasFormlessComment { settings } (keyed values) := by
    rw [← exists_commentsOf_eq_error_iff, hcomments]
    simp
  refine writtenWith hformed (fun nv hnv => (hvalues nv (mem_of_mem_printed hnv).1).2) ?_
  rwa [rowsOf, hcomments]

end Block

/-! ### Texts -/

/-- The text that a value is. -/
def Value.asText? : Value → Option Text
  | .text s => some s
  | _ => none

theorem Value.eq_text_of_asText? {v : Value} {s : Text} (h : v.asText? = some s) : v = .text s := by
  cases v with
  | text t => exact congrArg Value.text (Option.some.inj h)
  | _ => exact absurd h (by simp [Value.asText?])

/-- Items that are all of one form come from what they hold. -/
theorem Value.exists_map_of_all {α : Type} {f : α → Value} {as? : Value → Option α}
    (hf : ∀ v a, as? v = some a → v = f a) {items : List Value}
    (h : items.all (as? · |>.isSome)) : ∃ as : List α, items = as.map f := by
  have hrange : items ∈ Set.range (List.map f) := by
    rw [Set.range_list_map]
    intro v hv
    obtain ⟨a, ha⟩ := Option.isSome_iff_exists.mp (List.all_eq_true.mp h v hv)
    exact ⟨a, (hf v a ha).symm⟩
  obtain ⟨as, rfl⟩ := hrange
  exact ⟨as, rfl⟩

namespace NamedValue

/-- The text that a named value holds. -/
def text (nv : NamedValue) : Text := nv.value.asText?.getD []

/-- A named text that is written escaped. -/
structure IsText (nv : NamedValue) : Prop where
  isName : Text.IsName nv.name
  isText : nv.value.asText?.isSome
  escaped : nv.quoting.noEscape = false
  not_credential : nv.kind ≠ some .credential
  not_enumeration : nv.kind ≠ some .enumeration

instance (nv : NamedValue) : Decidable nv.IsText :=
  decidable_of_iff (Text.IsName nv.name ∧ nv.value.asText?.isSome ∧ nv.quoting.noEscape = false ∧
    nv.kind ≠ some .credential ∧ nv.kind ≠ some .enumeration)
    ⟨fun ⟨hn, ht, he, hc, hm⟩ => ⟨hn, ht, he, hc, hm⟩,
      fun ⟨hn, ht, he, hc, hm⟩ => ⟨hn, ht, he, hc, hm⟩⟩

namespace IsText

variable {nv : NamedValue}

theorem value_eq (h : nv.IsText) : nv.value = .text nv.text := by
  have ht := h.isText
  rw [text]
  cases hv : nv.value with
  | text s => rfl
  | _ => simp [hv, Value.asText?] at ht

theorem isSome_plainForm? (h : nv.IsText) : nv.value.plainForm?.isSome := by
  rw [h.value_eq]
  rfl

theorem literalFault?_eq_none (h : nv.IsText) : nv.value.literalFault? = none := by
  rw [h.value_eq]
  rfl

theorem literal_eq (h : nv.IsText) (ctx : Block.Context) :
    (Block.rowLiteral ctx nv).literal =
      '\x22' :: (Text.escape nv.quoting.allowVariables nv.text ++ ['\x22']) := by
  have hquestion : Block.questionFor? ctx nv = none :=
    Block.questionFor?_eq_none (by rw [h.value_eq]; rfl)
  have hclassify : Literal.classify nv.kind nv.value = .ok ⟨.text, .text nv.text⟩ := by
    rw [h.value_eq]
    cases hk : nv.kind with
    | none => rfl
    | some kind =>
      cases kind with
      | credential => exact absurd hk h.not_credential
      | enumeration => exact absurd hk h.not_enumeration
      | _ => rfl
  rw [Block.rowLiteral_eq hquestion, ← Quoting.quote_of_escaped h.escaped]
  exact Block.literal_literalUnder hclassify rfl

end IsText

end NamedValue

end ResourceScript

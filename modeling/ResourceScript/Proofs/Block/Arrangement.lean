import ResourceScript.Proofs.Block.Line
import ResourceScript.Proofs.Block.Recording

/-!
# The order of a block

A block depends on what is given last under each name and on nothing else, so named values may be
given in any order in which those with one name follow one another as before. The rows of the block
stand in the strict order of their names, there is one for each name whose last value is printed,
and their equals signs stand in one column.

## Main definitions

* `Block.SameUnderNames`: the same values are given under each name, in the same order.
* `Block.IsArranged`: the rows of a block are sorted, complete and aligned.

## Main results

* `Block.render_eq_of_surviving_eq`: a block depends on the surviving values only.
* `Block.nodup_questions`: nothing is asked twice.
* `Block.isArranged_rowsOf`: the rows of a block are sorted, complete and aligned.
* `Block.render_eq_of_sameUnderNames`: the order of different names does not matter.
-/

namespace ResourceScript.Block

/-- The same values are given under each name, in the same order. So each list is a rearrangement of
the other, in which values with one name follow one another as before. -/
def SameUnderNames (values values' : List NamedValue) : Prop :=
  ∀ name, values.filter (·.name = name) = values'.filter (·.name = name)

/-- **The rows of a block.** They stand in the strict order of their names, there is one for each
name whose last value is not `null` and that belongs to no comment, each begins with its name behind
the indentation, and their equals signs stand in one column. -/
structure IsArranged (settings : Settings) (values : List NamedValue) (rows : List Row) : Prop where
  sorted : rows.Pairwise fun r r' => Text.le r.name r'.name ∧ r.name ≠ r'.name
  complete : ∀ name, name ∈ rows.map (·.name) ↔ ¬ isMetadata settings name ∧
    ∃ nv, lastUnder? (keyed values) name = some nv ∧ nv.value.isNull = false
  named : ∀ r ∈ rows, settings.indent ++ r.name <+:
    r.line settings (columnWidth settings (rows.map (·.name)))
  aligned : ∀ r ∈ rows, [' ', '=', ' '] <+:
    (r.line settings (columnWidth settings (rows.map (·.name)))).drop
      (settings.indent.length + columnWidth settings (rows.map (·.name)))

variable {ctx : Context} {settings : Settings} {values values' : List NamedValue} {r : Row}
  {width : Nat}

/-! ### The order of the values -/

/-- A block depends on the surviving values only. -/
theorem render_eq_of_surviving_eq {values values' : List (Text × NamedValue)}
    (h : surviving values = surviving values') : render ctx values = render ctx values' := by
  simp only [render, commentsOf, printed, h]

/-- The last value under a name is the last one of those with the name. -/
theorem lastUnder?_keyed_eq_getLast? (values : List NamedValue) (name : Text) :
    lastUnder? (keyed values) name = (values.filter (·.name = name)).getLast? := by
  rw [lastUnder?_keyed, List.getLast?_eq_head?_reverse, ← List.filter_reverse, List.head?_filter]

/-- Nothing is asked twice about one block. So it makes no difference whether the answer to a
question may change after it was asked. -/
theorem nodup_questions (ctx : Context) (values : List NamedValue) :
    (render ctx (keyed values)).questions.Nodup := by
  have hsublist : (formatted ctx (keyed values)).Sublist (printed ctx.settings (keyed values)) := by
    rw [formatted]
    split
    · exact List.nil_sublist _
    · exact upTo_sublist _ _
  rw [questions_render]
  refine ((pairwise_name_printed ctx.settings values).sublist hsublist).filterMap _
    fun nv nv' hne question hquestion question' hquestion' heq => hne ?_
  rw [eq_of_question_rowLiteral hquestion, eq_of_question_rowLiteral hquestion'] at heq
  exact (Prod.mk.inj heq).2

/-! ### The order of the rows -/

theorem length_le_columnWidth {names : List Text} {name : Text} (h : name ∈ names) :
    name.length ≤ columnWidth settings names := by
  have hmem : name.length ∈ names.map List.length := List.mem_map_of_mem h
  obtain ⟨longest, hlongest⟩ := Option.isSome_iff_exists.mp (List.isSome_max?_of_mem hmem)
  rw [columnWidth, hlongest, Option.getD_some]
  exact ((List.max?_eq_some_iff.mp hlongest).2 _ hmem).trans (le_max_right _ _)

theorem indent_append_name_prefix_line : settings.indent ++ r.name <+: r.line settings width := by
  rw [Row.line_eq, Row.header, List.append_assoc]
  exact (List.prefix_append_right_inj _).mpr (List.prefix_append _ _)

/-- The equals sign stands behind the column of names. -/
theorem equals_prefix_drop_line (h : r.name.length ≤ width) :
    [' ', '=', ' '] <+: (r.line settings width).drop (settings.indent.length + width) := by
  have hlength : (settings.indent ++ Text.padRight width r.name).length =
      settings.indent.length + width := by
    rw [List.length_append, Text.length_padRight, max_eq_right h]
  have hsplit : r.line settings width = settings.indent ++ Text.padRight width r.name ++
      ([' ', '=', ' '] ++ (r.literal ++ r.tail settings)) := by
    simp [Row.line, Row.tail]
  rw [hsplit, List.drop_left' hlength]
  exact List.prefix_append _ _

theorem isArranged_rowsOf (ctx : Context) (values : List NamedValue) :
    IsArranged ctx.settings values (rowsOf ctx (keyed values)) where
  sorted := by
    rw [rowsOf, List.pairwise_map]
    exact pairwise_le_printed ctx.settings values
  complete name := by
    rw [map_name_rowsOf, List.mem_map]
    constructor
    · rintro ⟨nv, hnv, rfl⟩
      obtain ⟨key, hlast, hnull, hkey⟩ := mem_printed_iff_exists.mp hnv
      obtain ⟨rfl, -⟩ := eq_of_mem_surviving (mem_surviving_iff.mpr ⟨hlast, hnull⟩)
      exact ⟨hkey, nv, hlast, hnull⟩
    · rintro ⟨hkey, nv, hlast, hnull⟩
      obtain ⟨rfl, -⟩ := eq_of_mem_surviving (mem_surviving_iff.mpr ⟨hlast, hnull⟩)
      exact ⟨nv, mem_printed_iff_exists.mpr ⟨nv.name, hlast, hnull, hkey⟩, rfl⟩
  named _ _ := indent_append_name_prefix_line
  aligned _ hr := equals_prefix_drop_line (length_le_columnWidth (List.mem_map_of_mem hr))

/-- **The order of different names does not matter.** Named values that are rearranged, those with
one name in the same order, give the same block, register the same users and ask the same questions.
If the block is written, its rows are sorted, complete and aligned. -/
theorem render_eq_of_sameUnderNames (ctx : Context) (h : SameUnderNames values values') :
    render ctx (keyed values) = render ctx (keyed values') ∧
      ∀ block, (render ctx (keyed values)).outcome = .ok block → ∃ rows,
        IsArranged ctx.settings values rows ∧
          block = linesOf ctx.settings (columnWidth ctx.settings (rows.map (·.name))) rows := by
  have hlast (name : Text) : lastUnder? (keyed values) name = lastUnder? (keyed values') name := by
    rw [lastUnder?_keyed_eq_getLast?, lastUnder?_keyed_eq_getLast?, h name]
  refine ⟨render_eq_of_surviving_eq (surviving_eq_of_lastUnder?_eq hlast), fun block hblock => ?_⟩
  refine ⟨rowsOf ctx (keyed values), isArranged_rowsOf ctx values, ?_⟩
  rw [eq_textOf_of_outcome_eq_ok hblock, textOf_eq_linesOf, nameWidth_eq_columnWidth]

/-- A comment, a value that is replaced, a credential, and a removed value, in two orders. -/
theorem render_eq_of_sameUnderNames_replaced :
    let note : NamedValue := { name := "_metadata_B".toList, value := .text "none".toList }
    let replaced : NamedValue := { name := ['B'], value := .int 1 }
    let b : NamedValue := { name := ['B'], value := .list [] }
    let a : NamedValue := { name := ['A'], value := .credential ⟨"alice".toList, none⟩ }
    let removed : NamedValue := { name := ['C'] }
    let ctx : Context := { resolver := some fun _ _ => .undeclared, registryLead := some ['$'] }
    let values := [note, replaced, b, a, removed]
    let values' := [a, replaced, note, removed, b]
    SameUnderNames values values' ∧ render ctx (keyed values) = render ctx (keyed values') ∧
      ∃ rows, IsArranged ctx.settings values rows ∧ (render ctx (keyed values)).outcome =
        .ok (linesOf ctx.settings (columnWidth ctx.settings (rows.map (·.name))) rows) := by
  intro note replaced b a removed ctx values values'
  have hsame : SameUnderNames values values' := by
    intro name
    rcases eq_or_ne a.name name with rfl | ha
    · rfl
    rcases eq_or_ne b.name name with rfl | hb
    · rfl
    · have hreplaced : replaced.name ≠ name := hb
      simp [values, values', List.filter_cons, ha, hb, hreplaced]
  have hsurviving : surviving (keyed values) = keyed [a, b, note] :=
    surviving_eq_of_perm (List.reverse_perm (keyed [a, b, note])) (by decide)
  have hok : (render ctx (keyed values)).outcome =
      .ok ("            A                    = $alice;\r\n".toList ++
        "            B                    = @(); none\r\n".toList) := by
    rw [render, commentsOf, printed, hsurviving]
    rfl
  obtain ⟨heq, hrows⟩ := render_eq_of_sameUnderNames ctx hsame
  obtain ⟨rows, harranged, hblock⟩ := hrows _ hok
  exact ⟨hsame, heq, rows, harranged, hok.trans (congrArg Except.ok hblock)⟩

end ResourceScript.Block

import Mathlib.Logic.Function.Basic
import ResourceScript.Proofs.Block.Failure
import ResourceScript.Proofs.Block.Line

/-!
# Rows do not see one another's values

The rows of a block share the width of their names, the comments, the resolver and the registry in
which their users are saved. When the value of one row is replaced by another one, however this is
quoted and whatever kind it is declared with, the other rows stay as they are: their literals,
their alignment, their comments and their order, the users that they record and the questions that
are asked about them.

## Main definitions

* `NamedValue.IsReplacedBy`: two named values that may stand for one another in a row.

## Main results

* `Block.map_update_of_pairwise`: one of several values with different names is replaced.
* `Block.mem_printed_of_pairwise`: values with different names are printed.
* `Block.outcome_replaced`: what the two blocks fail for.
* `Block.render_replaced`: the other rows do not change when a value is replaced.
-/

namespace ResourceScript

/-- Two named values with one name and one comment, neither of which is `null`. The values may
differ, and so may the ways in which they are quoted and the kinds that they are declared with. -/
structure NamedValue.IsReplacedBy (nv nv' : NamedValue) : Prop where
  name_eq : nv'.name = nv.name
  comment_eq : nv'.comment = nv.comment
  not_null : nv.value.isNull = false
  not_null' : nv'.value.isNull = false

theorem NamedValue.IsReplacedBy.isNull_update [DecidableEq NamedValue] {nv nv' : NamedValue}
    (h : nv.IsReplacedBy nv') (m : NamedValue) :
    (Function.update id nv nv' m).value.isNull = m.value.isNull := by
  by_cases hm : m = nv
  · rw [hm, Function.update_self, h.not_null, h.not_null']
  · rw [Function.update_of_ne hm, id]

namespace Block

variable {ctx : Context} {settings : Settings} {nv nv' : NamedValue}
  {before after : List NamedValue}

/-! ### One of several values -/

section Update

variable [DecidableEq NamedValue]

/-- Of several values with different names one is replaced. -/
theorem map_update_of_pairwise (h : (before ++ nv :: after).Pairwise (·.name ≠ ·.name)) :
    (before ++ nv :: after).map (Function.update id nv nv') = before ++ nv' :: after := by
  obtain ⟨hbefore, hafter⟩ := name_ne_of_pairwise h
  have hkeep {l : List NamedValue} (hl : ∀ m ∈ l, nv.name ≠ m.name) :
      l.map (Function.update id nv nv') = l := by
    refine (List.map_congr_left fun m hm => ?_).trans (List.map_id l)
    exact Function.update_of_ne (fun heq => hl m hm (congrArg NamedValue.name heq.symm)) nv' id
  rw [List.map_append, List.map_cons, Function.update_self, hkeep hbefore, hkeep hafter]

theorem keyed_replaced (hreplaced : nv.IsReplacedBy nv')
    (hdistinct : (before ++ nv :: after).Pairwise (·.name ≠ ·.name)) :
    keyed (before ++ nv' :: after) =
      (keyed (before ++ nv :: after)).map fun e => (e.1, Function.update id nv nv' e.2) := by
  have hname (m : NamedValue) : (Function.update id nv nv' m).name = m.name := by
    by_cases hm : m = nv
    · rw [hm, Function.update_self, hreplaced.name_eq]
    · rw [Function.update_of_ne hm, id]
  rw [← map_update_of_pairwise hdistinct, keyed, keyed, List.map_map, List.map_map]
  exact List.map_congr_left fun m _ => Prod.ext (hname m) rfl

end Update

/-- Values with different names are printed. -/
theorem mem_printed_of_pairwise (h : (before ++ nv :: after).Pairwise (·.name ≠ ·.name))
    (hnull : nv.value.isNull = false) (hmetadata : ¬ isMetadata settings nv.name) :
    nv ∈ printed settings (keyed (before ++ nv :: after)) := by
  have hafter : after.reverse.find? (·.name = nv.name) = none := by
    refine List.find?_eq_none.mpr fun m hm => ?_
    simpa using ((name_ne_of_pairwise h).2 m (List.mem_reverse.mp hm)).symm
  refine mem_printed_iff_exists.mpr ⟨nv.name, ?_, hnull, hmetadata⟩
  rw [lastUnder?_keyed, List.reverse_append, List.reverse_cons, List.find?_append,
    List.find?_append, hafter]
  simp

/-! ### The other rows -/

section Replaced

variable (hreplaced : nv.IsReplacedBy nv') (hmetadata : ¬ isMetadata ctx.settings nv.name)
  (hdistinct : (before ++ nv :: after).Pairwise (·.name ≠ ·.name))

include hreplaced hmetadata hdistinct

/-- The values around the one that is replaced are printed around the other one, too. -/
theorem exists_printed_replaced : ∃ above below,
    printed ctx.settings (keyed (before ++ nv :: after)) = above ++ nv :: below ∧
      printed ctx.settings (keyed (before ++ nv' :: after)) = above ++ nv' :: below := by
  classical
  obtain ⟨above, below, hprinted⟩ :=
    List.append_of_mem (mem_printed_of_pairwise hdistinct hreplaced.not_null hmetadata)
  refine ⟨above, below, hprinted, ?_⟩
  rw [keyed_replaced hreplaced hdistinct, printed_map hreplaced.isNull_update, hprinted]
  exact map_update_of_pairwise (hprinted ▸ pairwise_name_printed _ _)

theorem commentsOf_replaced : commentsOf ctx (keyed (before ++ nv' :: after)) =
    commentsOf ctx (keyed (before ++ nv :: after)) := by
  classical
  rw [keyed_replaced hreplaced hdistinct]
  refine commentsOf_map hreplaced.isNull_update fun key m hm hkey => ?_
  obtain ⟨rfl, -⟩ := eq_of_mem_surviving hm
  refine Function.update_of_ne (fun heq => hmetadata ?_) _ _
  rwa [← heq]

/-- Both blocks fail in the same way, or one of them fails for the value that is replaced, or both
are written. -/
theorem outcome_replaced :
    (∃ failure, (render ctx (keyed (before ++ nv :: after))).outcome = .error failure ∧
      (render ctx (keyed (before ++ nv' :: after))).outcome = .error failure) ∨
    (nv.value.isFormlessLiteral ∧
      ∃ e, (render ctx (keyed (before ++ nv :: after))).outcome = .error (.literal e)) ∨
    (nv'.value.isFormlessLiteral ∧
      ∃ e, (render ctx (keyed (before ++ nv' :: after))).outcome = .error (.literal e)) ∨
    ∃ block block', (render ctx (keyed (before ++ nv :: after))).outcome = .ok block ∧
      (render ctx (keyed (before ++ nv' :: after))).outcome = .ok block' := by
  obtain ⟨above, below, hprinted, hprinted'⟩ :=
    exists_printed_replaced hreplaced hmetadata hdistinct
  have hcomments := commentsOf_replaced hreplaced hmetadata hdistinct
  cases hc : commentsOf ctx (keyed (before ++ nv :: after)) with
  | error e =>
    rw [hc] at hcomments
    exact Or.inl ⟨.comment e, by rw [outcome_render, hc], by rw [outcome_render, hcomments]⟩
  | ok comments =>
    rw [hc] at hcomments
    have hformed : ¬ HasFormlessComment ctx (keyed (before ++ nv :: after)) := by
      simp [← exists_commentsOf_eq_error_iff, hc]
    have hformed' : ¬ HasFormlessComment ctx (keyed (before ++ nv' :: after)) := by
      simp [← exists_commentsOf_eq_error_iff, hcomments]
    have hcolumn : HasOverwideColumn ctx.settings (keyed (before ++ nv' :: after)) ↔
        HasOverwideColumn ctx.settings (keyed (before ++ nv :: after)) := by
      simp [HasOverwideColumn, hprinted, hprinted', hreplaced.name_eq]
    by_cases hwide : HasOverwideColumn ctx.settings (keyed (before ++ nv :: after))
    · exact Or.inl ⟨.uncountableWidth, outcome_of_hasOverwideColumn hformed hwide,
        outcome_of_hasOverwideColumn hformed' (hcolumn.mpr hwide)⟩
    -- the first literal without text form decides, and only one literal is not the same in both
    rw [outcome_render, outcome_render, hc, hcomments, firstFailure?_of_counted hwide,
      firstFailure?_of_counted (hcolumn.not.mpr hwide), hprinted, hprinted', List.findSome?_append,
      List.findSome?_append, List.findSome?_cons, List.findSome?_cons]
    cases above.findSome? (·.value.literalFault?.map Failure.literal) with
    | some failure => exact Or.inl ⟨failure, rfl, rfl⟩
    | none =>
      rw [← Value.isSome_literalFault?, ← Value.isSome_literalFault?]
      cases nv.value.literalFault? with
      | some e => exact Or.inr (Or.inl ⟨rfl, e, rfl⟩)
      | none =>
        cases nv'.value.literalFault? with
        | some e => exact Or.inr (Or.inr (Or.inl ⟨rfl, e, rfl⟩))
        | none =>
          cases below.findSome? (·.value.literalFault?.map Failure.literal) with
          | some failure => exact Or.inl ⟨failure, rfl, rfl⟩
          | none => exact Or.inr (Or.inr (Or.inr ⟨_, _, rfl, rfl⟩))

end Replaced

/-- **The other rows do not change when a value is replaced.** Among values with different names,
one that is no comment is replaced. Then both blocks fail in the same way, or one of them fails for
the value itself, which is a literal without text form, or both have the same rows, apart from the
row of the value, which has the same name and the same comment in both. -/
theorem render_replaced (ctx : Context) (hreplaced : nv.IsReplacedBy nv')
    (hmetadata : ¬ isMetadata ctx.settings nv.name)
    (hdistinct : (before ++ nv :: after).Pairwise (·.name ≠ ·.name)) :
    (∃ failure, (render ctx (keyed (before ++ nv :: after))).outcome = .error failure ∧
      (render ctx (keyed (before ++ nv' :: after))).outcome = .error failure) ∨
    (nv.value.isFormlessLiteral ∧
      ∃ e, (render ctx (keyed (before ++ nv :: after))).outcome = .error (.literal e)) ∨
    (nv'.value.isFormlessLiteral ∧
      ∃ e, (render ctx (keyed (before ++ nv' :: after))).outcome = .error (.literal e)) ∨
    ∃ width above comment below,
      render ctx (keyed (before ++ nv :: after)) = writtenRows ctx.settings width
        (above ++ ⟨rowLiteral ctx nv, nv.name, comment⟩ :: below) ∧
      render ctx (keyed (before ++ nv' :: after)) = writtenRows ctx.settings width
        (above ++ ⟨rowLiteral ctx nv', nv.name, comment⟩ :: below) := by
  refine (outcome_replaced hreplaced hmetadata hdistinct).imp_right
    (Or.imp_right (Or.imp_right ?_))
  rintro ⟨block, block', h, h'⟩
  obtain ⟨above, below, hprinted, hprinted'⟩ :=
    exists_printed_replaced hreplaced hmetadata hdistinct
  have hcomments := commentsOf_replaced hreplaced hmetadata hdistinct
  have hnames : (printed ctx.settings (keyed (before ++ nv' :: after))).map (·.name) =
      (printed ctx.settings (keyed (before ++ nv :: after))).map (·.name) := by
    simp [hprinted, hprinted', hreplaced.name_eq]
  rw [render_eq_writtenRows h, render_eq_writtenRows h', rowsOf, rowsOf, hnames, hcomments,
    hprinted, hprinted']
  generalize (commentsOf ctx (keyed (before ++ nv :: after))).toOption.getD [] = comments
  have hrow : rowOf ctx comments nv' = ⟨rowLiteral ctx nv', nv.name, commentOn comments nv⟩ := by
    rw [rowOf, commentOn, commentOn, hreplaced.name_eq, hreplaced.comment_eq]
  refine ⟨columnWidth ctx.settings ((above ++ nv :: below).map (·.name)),
    above.map (rowOf ctx comments), commentOn comments nv, below.map (rowOf ctx comments), ?_, ?_⟩
  · rw [List.map_append (f := rowOf ctx comments), List.map_cons]
    rfl
  · rw [List.map_append (f := rowOf ctx comments), List.map_cons, hrow]

/-- A value without text form is replaced by a credential, between two other rows. -/
theorem render_replaced_formless :
    let a : NamedValue := { name := ['A'], value := .credential ⟨"alice".toList, none⟩ }
    let b : NamedValue := { name := ['B'], value := .object "Opaque".toList none none }
    let b' : NamedValue := { name := ['B'], value := .credential ⟨"bob".toList, none⟩ }
    let c : NamedValue := { name := ['C'], value := .bool true, comment := some "last".toList }
    let ctx : Context := { registryLead := some ['$'] }
    (rowLiteral ctx b).literal = "Opaque".toList ∧ (rowLiteral ctx b').literal = "$bob".toList ∧
      ∃ width above comment below,
        render ctx (keyed [a, b, c]) = writtenRows ctx.settings width
          (above ++ ⟨rowLiteral ctx b, ['B'], comment⟩ :: below) ∧
        render ctx (keyed [a, b', c]) = writtenRows ctx.settings width
          (above ++ ⟨rowLiteral ctx b', ['B'], comment⟩ :: below) := by
  intro a b b' c ctx
  have hreplaced : b.IsReplacedBy b' := ⟨rfl, rfl, rfl, rfl⟩
  have hmetadata : ¬ isMetadata ctx.settings b.name := by decide
  have hdistinct : ([a] ++ b :: [c]).Pairwise (·.name ≠ ·.name) := by decide
  have h := render_replaced ctx hreplaced hmetadata hdistinct
  rw [List.singleton_append, List.singleton_append] at h
  have hformed : ¬ HasFormlessComment ctx (keyed [a, b, c]) := not_hasFormlessComment (by decide)
  have hsurviving : surviving (keyed [a, b, c]) = keyed [a, b, c] :=
    surviving_eq_of_perm (.refl _) (by decide)
  have hprinted : printed ctx.settings (keyed [a, b, c]) = [a, b, c] := by
    rw [printed, hsurviving]
    rfl
  have hfirst : firstFailure? ctx.settings (keyed [a, b, c]) = none := by
    simp only [firstFailure?, hprinted, List.findSome?_cons, rowFailure?]
    rfl
  have hwritten : ¬ ∃ failure, (render ctx (keyed [a, b, c])).outcome = .error failure ∧
      (render ctx (keyed [a, b', c])).outcome = .error failure := by
    rintro ⟨failure, herror, -⟩
    rw [outcome_eq_error_iff_of_formed hformed, hfirst] at herror
    exact absurd herror (by simp)
  have hform : ¬ b.value.isFormlessLiteral := by decide
  have hform' : ¬ b'.value.isFormlessLiteral := by decide
  have hrows := (h.resolve_left hwritten).resolve_left fun hb => hform hb.1
  exact ⟨by decide, by decide, hrows.resolve_left fun hb' => hform' hb'.1⟩

end Block

end ResourceScript

import ResourceScript.Proofs.Block.Recording

/-!
# Blocks that are not written

Whatever fails on the way to a literal, its row is written with the plain form of the value or with
the name of its type. A block is therefore not written for one of three reasons only. Comments are
made before any row, so when one of them has no text form nothing has happened yet. A name is padded
after the literal of its row was made, so when the column of names is too wide to be counted the
question about the first row has been asked and its user is registered. A value that already is a
literal is put in its line as it is. When the first such value without text form is reached, the
users of the rows before it are registered and the questions about them have been asked.

## Main definitions

* `Block.HasOverwideColumn`: the column of names is too wide to be counted.
* `Block.HasFormlessLiteral`: a value that already is a literal has no text form.
* `Block.FailsForCommentsOnly`: a block fails for its comments only, and without a trace.

## Main results

* `Block.outcome_of_hasFormlessComment`, `Block.outcome_of_hasOverwideColumn`,
  `Block.outcome_of_hasFormlessLiteral`: what a block fails for.
* `Block.exists_outcome_eq_error_iff`: when a block fails, and what has happened until then.
-/

namespace ResourceScript.Block

/-- The column of names of a block with rows is too wide to be counted. -/
def HasOverwideColumn (settings : Settings) (values : List (Text × NamedValue)) : Prop :=
  printed settings values ≠ [] ∧
    uncountableWidth ≤ columnWidth settings ((printed settings values).map (·.name))

/-- A value that already is a literal has no text form. -/
def HasFormlessLiteral (settings : Settings) (values : List (Text × NamedValue)) : Prop :=
  ∃ nv ∈ printed settings values, nv.value.isFormlessLiteral

/-- **A block fails for its comments only, and without a trace.** It fails exactly if a comment has
no text form, and then no user has been registered and nothing has been asked. -/
structure FailsForCommentsOnly (ctx : Context) (values : List (Text × NamedValue))
    (registry : Registry) : Prop where
  fails_iff : (∃ failure, (render ctx values).outcome = .error failure) ↔
    HasFormlessComment ctx values
  leavesNoTrace : ∀ failure, (render ctx values).outcome = .error failure →
    (render ctx values).register registry = registry ∧ (render ctx values).questions = []

variable {ctx : Context} {values : List (Text × NamedValue)} {nv first : NamedValue}
  {before after rest : List NamedValue} {failure : Failure}

/-! ### A comment without text form -/

theorem outcome_of_hasFormlessComment (h : HasFormlessComment ctx values) :
    ∃ e, (render ctx values).outcome = .error (.comment e) := by
  obtain ⟨e, he⟩ := exists_commentsOf_eq_error_iff.mpr h
  exact ⟨e, by rw [outcome_render, he]⟩

/-- Comments are made before any literal. -/
theorem formatted_of_hasFormlessComment (h : HasFormlessComment ctx values) :
    formatted ctx values = [] := by
  obtain ⟨e, he⟩ := exists_commentsOf_eq_error_iff.mpr h
  rw [formatted, he]

section Formed

variable (hformed : ¬ HasFormlessComment ctx values)

include hformed

/-- Behind its comments, a block fails for its first row that cannot be written. -/
theorem outcome_eq_error_iff_of_formed : (render ctx values).outcome = .error failure ↔
    firstFailure? ctx.settings values = some failure := by
  obtain ⟨comments, hc⟩ := exists_commentsOf_eq_ok hformed
  rw [outcome_render, hc]
  cases firstFailure? ctx.settings values <;> simp

/-- Behind the comments, literals are made up to the first row that cannot be written. -/
theorem formatted_eq_of_formed (hprinted : printed ctx.settings values = before ++ nv :: after)
    (hbefore : ∀ m ∈ before, rowFailure? ctx.settings values m = none)
    (hnv : (rowFailure? ctx.settings values nv).isSome) :
    formatted ctx values = before ++ [nv] := by
  have hbefore' (m : NamedValue) (hm : m ∈ before) :
      (rowFailure? ctx.settings values m).isSome = false := by
    rw [hbefore m hm, Option.isSome_none]
  obtain ⟨comments, hc⟩ := exists_commentsOf_eq_ok hformed
  rw [formatted, hc]
  simp only
  rw [hprinted]
  exact upTo_append_cons hbefore' hnv after

/-! ### A column that is too wide -/

theorem outcome_of_hasOverwideColumn (h : HasOverwideColumn ctx.settings values) :
    (render ctx values).outcome = .error .uncountableWidth := by
  obtain ⟨first, rest, hfirst⟩ := List.exists_cons_of_ne_nil h.1
  have hfailure : rowFailure? ctx.settings values first = some .uncountableWidth := if_pos h.2
  rw [outcome_eq_error_iff_of_formed hformed, firstFailure?, hfirst, List.findSome?_cons, hfailure]

/-- When the column of names is too wide, the literal of the first row has been made. -/
theorem formatted_of_hasOverwideColumn (h : HasOverwideColumn ctx.settings values)
    (hfirst : printed ctx.settings values = first :: rest) : formatted ctx values = [first] :=
  have hprinted : printed ctx.settings values = [] ++ first :: rest := hfirst
  formatted_eq_of_formed hformed hprinted (fun _ hm => absurd hm List.not_mem_nil)
    (isSome_failureAt?_iff.mpr (Or.inl h.2))

end Formed

/-! ### A literal without text form -/

section Counted

variable (hcounted : ¬ HasOverwideColumn ctx.settings values)

include hcounted

/-- In a column that is not too wide, only a literal without text form cannot be written. -/
theorem rowFailure?_of_counted (hnv : nv ∈ printed ctx.settings values) :
    rowFailure? ctx.settings values nv = nv.value.literalFault?.map .literal :=
  if_neg fun hwidth => hcounted ⟨List.ne_nil_of_mem hnv, hwidth⟩

theorem rowFailure?_eq_none_of_counted (hnv : nv ∈ printed ctx.settings values)
    (hform : ¬ nv.value.isFormlessLiteral) : rowFailure? ctx.settings values nv = none := by
  rw [← Value.isSome_literalFault?, Option.not_isSome_iff_eq_none] at hform
  rw [rowFailure?_of_counted hcounted hnv, hform, Option.map_none]

theorem firstFailure?_of_counted : firstFailure? ctx.settings values =
    (printed ctx.settings values).findSome? (·.value.literalFault?.map .literal) := by
  rw [firstFailure?]
  by_cases hnil : printed ctx.settings values = []
  · rw [hnil]
    rfl
  · refine congrArg (List.findSome? · _) (funext fun nv => if_neg fun hwidth => ?_)
    exact hcounted ⟨hnil, hwidth⟩

variable (hformed : ¬ HasFormlessComment ctx values)

include hformed

theorem outcome_of_hasFormlessLiteral (h : HasFormlessLiteral ctx.settings values) :
    ∃ e, (render ctx values).outcome = .error (.literal e) := by
  obtain ⟨nv, hnv, hform⟩ := h
  have hsome : (firstFailure? ctx.settings values).isSome := by
    rw [firstFailure?, List.findSome?_isSome_iff]
    exact ⟨nv, hnv, isSome_failureAt?_iff.mpr (Or.inr hform)⟩
  obtain ⟨failure, hfailure⟩ := Option.isSome_iff_exists.mp hsome
  obtain ⟨nv', hnv', hrow⟩ := List.exists_of_findSome?_eq_some hfailure
  rw [rowFailure?_of_counted hcounted hnv'] at hrow
  obtain ⟨e, -, rfl⟩ := Option.map_eq_some_iff.mp hrow
  exact ⟨e, (outcome_eq_error_iff_of_formed hformed).mpr hfailure⟩

/-- A literal without text form is noticed when the literals before it have been made. -/
theorem formatted_of_isFormlessLiteral
    (hprinted : printed ctx.settings values = before ++ nv :: after)
    (hbefore : ∀ m ∈ before, ¬ m.value.isFormlessLiteral) (hnv : nv.value.isFormlessLiteral) :
    formatted ctx values = before ++ [nv] :=
  formatted_eq_of_formed hformed hprinted
    (fun m hm => rowFailure?_eq_none_of_counted hcounted (by simp [hprinted, hm]) (hbefore m hm))
    (isSome_failureAt?_iff.mpr (Or.inr hnv))

end Counted

/-- The row of a literal without text form is not asked about and registers nobody. -/
theorem rowLiteral_of_isFormlessLiteral (ctx : Context) (h : nv.value.isFormlessLiteral) :
    (rowLiteral ctx nv).username = none ∧ (rowLiteral ctx nv).question = none := by
  rw [Value.isFormlessLiteral.eq_def] at h
  split at h
  · next payload hvalue =>
    have hclassify : Literal.classify nv.kind nv.value = .ok ⟨.verbatim, payload⟩ := by
      rw [hvalue]
      rfl
    rw [rowLiteral_eq (questionFor?_eq_none (by rw [hvalue]; rfl))]
    refine ⟨username_literalUnder_eq_none fun l hl => ?_, question_literalUnder ctx nv nv.kind⟩
    obtain rfl := Except.ok.inj (hclassify.symm.trans hl)
    simp
  · exact absurd h Bool.false_ne_true

/-! ### When a block fails -/

/-- A block fails for a comment, for its column of names, or for a literal. -/
theorem exists_outcome_eq_error_iff_or (ctx : Context) (values : List (Text × NamedValue)) :
    (∃ failure, (render ctx values).outcome = .error failure) ↔ HasFormlessComment ctx values ∨
      HasOverwideColumn ctx.settings values ∨ HasFormlessLiteral ctx.settings values := by
  by_cases hformed : HasFormlessComment ctx values
  · obtain ⟨e, he⟩ := outcome_of_hasFormlessComment hformed
    exact iff_of_true ⟨_, he⟩ (Or.inl hformed)
  by_cases hcounted : HasOverwideColumn ctx.settings values
  · exact iff_of_true ⟨_, outcome_of_hasOverwideColumn hformed hcounted⟩ (Or.inr (Or.inl hcounted))
  by_cases hliteral : HasFormlessLiteral ctx.settings values
  · obtain ⟨e, he⟩ := outcome_of_hasFormlessLiteral hcounted hformed hliteral
    exact iff_of_true ⟨_, he⟩ (Or.inr (Or.inr hliteral))
  -- without any of the three reasons every row can be written
  refine iff_of_false ?_ (by simp [hformed, hcounted, hliteral])
  rintro ⟨failure, hfailure⟩
  obtain ⟨nv, hnv, hrow⟩ :=
    List.exists_of_findSome?_eq_some ((outcome_eq_error_iff_of_formed hformed).mp hfailure)
  have hform : ¬ nv.value.isFormlessLiteral := fun h => hliteral ⟨nv, hnv, h⟩
  rw [rowFailure?_eq_none_of_counted hcounted hnv hform] at hrow
  exact absurd hrow (by simp)

/-- **When a block fails.** It fails exactly if a comment that is to be written has no text form,
the column of names is too wide to be counted, or a value that already is a literal has no text
form. In the first case no user has been registered and nothing has been asked. Otherwise, if the
column is too wide, exactly the user of the first row has been registered and exactly the question
about it has been asked. Otherwise exactly the users of the rows before the first literal without
text form have been registered, and exactly the questions about these rows have been asked. -/
theorem exists_outcome_eq_error_iff (ctx : Context) (values : List (Text × NamedValue))
    (registry : Registry) :
    ((∃ failure, (render ctx values).outcome = .error failure) ↔ HasFormlessComment ctx values ∨
      HasOverwideColumn ctx.settings values ∨ HasFormlessLiteral ctx.settings values) ∧
    (HasFormlessComment ctx values →
      (render ctx values).register registry = registry ∧ (render ctx values).questions = []) ∧
    (¬ HasFormlessComment ctx values → HasOverwideColumn ctx.settings values →
      ∃ first, (printed ctx.settings values).head? = some first ∧
        (render ctx values).register registry =
          registry.saveAll (rowLiteral ctx first).username.toList ∧
        (render ctx values).questions = (rowLiteral ctx first).question.toList) ∧
    (¬ HasFormlessComment ctx values → ¬ HasOverwideColumn ctx.settings values →
      HasFormlessLiteral ctx.settings values →
      ∃ before nv after, printed ctx.settings values = before ++ nv :: after ∧
        nv.value.isFormlessLiteral ∧ (∀ m ∈ before, ¬ m.value.isFormlessLiteral) ∧
        (render ctx values).register registry = registered ctx registry before ∧
        (render ctx values).questions =
          before.filterMap fun m => (rowLiteral ctx m).question) := by
  refine ⟨exists_outcome_eq_error_iff_or ctx values, fun hformless => ?_,
    fun hformed hcolumn => ?_, fun hformed hcounted hliteral => ?_⟩
  · rw [register_render, questions_render, formatted_of_hasFormlessComment hformless]
    exact ⟨rfl, rfl⟩
  · obtain ⟨first, rest, hfirst⟩ := List.exists_cons_of_ne_nil hcolumn.1
    refine ⟨first, by rw [hfirst, List.head?_cons], ?_, ?_⟩
    · rw [register_render, formatted_of_hasOverwideColumn hformed hcolumn hfirst,
        ← List.nil_append [first], registered_concat]
      rfl
    · rw [questions_render, formatted_of_hasOverwideColumn hformed hcolumn hfirst,
        List.filterMap_cons]
      cases (rowLiteral ctx first).question <;> rfl
  · obtain ⟨nv, before, after, hprinted, hnv, hbefore⟩ : ∃ nv before after,
        printed ctx.settings values = before ++ nv :: after ∧ nv.value.isFormlessLiteral ∧
          ∀ m ∈ before, ¬ m.value.isFormlessLiteral := by
      obtain ⟨nv, hnv⟩ := Option.isSome_iff_exists.mp (List.find?_isSome.mpr hliteral)
      obtain ⟨hform, before, after, hprinted, hbefore⟩ := List.find?_eq_some_iff_append.mp hnv
      exact ⟨nv, before, after, hprinted, hform, by simpa using hbefore⟩
    obtain ⟨husername, hquestion⟩ := rowLiteral_of_isFormlessLiteral ctx hnv
    refine ⟨before, nv, after, hprinted, hnv, hbefore, ?_, ?_⟩
    · rw [register_render, formatted_of_isFormlessLiteral hcounted hformed hprinted hbefore hnv,
        registered_concat, husername]
      rfl
    · rw [questions_render, formatted_of_isFormlessLiteral hcounted hformed hprinted hbefore hnv,
        List.filterMap_append, List.filterMap_cons, hquestion]
      exact List.append_nil _

/-- A block that fails when a user has been registered does not fail without a trace. -/
theorem not_failsForCommentsOnly_of_usernames {registry : Registry} {usernames : List Text}
    (hfailure : (render ctx values).outcome = .error failure)
    (husers : ((render ctx values).register registry).usernames = usernames)
    (hne : usernames ≠ registry.usernames) : ¬ FailsForCommentsOnly ctx values registry := by
  intro h
  rw [(h.leavesNoTrace failure hfailure).1] at husers
  exact hne husers.symm

/-- A least width that cannot be counted fails although there are no comments, and so does a literal
of a foreign object without text form. The user of the first row is registered by then. -/
theorem not_failsForCommentsOnly :
    let c : NamedValue := { name := ['C'], value := .credential ⟨"alice".toList, none⟩ }
    let d : NamedValue :=
      { name := ['D'], value := .classified .verbatim (.object "Boom".toList none none) }
    let wide : Context := { settings := { minNameWidth := uncountableWidth } }
    ((render (wide.recordedBy {}) (keyed [c])).outcome = .error .uncountableWidth ∧
      ((render (wide.recordedBy {}) (keyed [c])).register {}).usernames = ["alice".toList] ∧
      ¬ FailsForCommentsOnly (wide.recordedBy {}) (keyed [c]) {}) ∧
    ((render (Context.recordedBy {} {}) (keyed [c, d])).outcome = .error (.literal .noTextForm) ∧
      ((render (Context.recordedBy {} {}) (keyed [c, d])).register {}).usernames =
        ["alice".toList] ∧
      ¬ FailsForCommentsOnly (Context.recordedBy {} {}) (keyed [c, d]) {}) := by
  intro c d wide
  have hsurviving : surviving (keyed [c]) = keyed [c] :=
    surviving_eq_of_perm (.refl _) (by decide)
  have hwide : (render (wide.recordedBy {}) (keyed [c])).outcome = .error .uncountableWidth := by
    rw [render, commentsOf, printed, hsurviving]
    rfl
  have husers : ((render (wide.recordedBy {}) (keyed [c])).register {}).usernames =
      ["alice".toList] := by
    rw [render, commentsOf, printed, hsurviving]
    rfl
  have hsurviving' : surviving (keyed [c, d]) = keyed [c, d] :=
    surviving_eq_of_perm (.refl _) (by decide)
  have hliteral : (render (Context.recordedBy {} {}) (keyed [c, d])).outcome =
      .error (.literal .noTextForm) := by
    rw [render, commentsOf, printed, hsurviving']
    rfl
  have husers' : ((render (Context.recordedBy {} {}) (keyed [c, d])).register {}).usernames =
      ["alice".toList] := by
    rw [render, commentsOf, printed, hsurviving']
    rfl
  have hne : ["alice".toList] ≠ Registry.usernames {} := List.cons_ne_nil _ _
  exact ⟨⟨hwide, husers, not_failsForCommentsOnly_of_usernames hwide husers hne⟩,
    hliteral, husers', not_failsForCommentsOnly_of_usernames hliteral husers' hne⟩

end ResourceScript.Block

import ResourceScript.Proofs.Stripping.Row

/-!
# Texts that imitate an assignment

The search for an assignment looks at words, blanks and signs only, not at where literals begin and
end. Where a text before the row of a parameter mentions the parameter, the search goes on only when
a double quote comes before the next equals sign. So the row is found unless a text before it
imitates an assignment, and then the search stops too early.

## Main definitions

* `Unquote.Imitates`: a text imitates an assignment of a name.
* `Unquote.Announces`: a text imitates one together with an equals sign behind it.

## Main results

* `Unquote.assignedRest?_plainRow`: how the search passes a row with a text.
* `Unquote.findAssignment?_render_iff`: when the row of a parameter is found.
-/

namespace ResourceScript.Unquote

open Text (IsName isBlank)
open Block

/-- A text imitates an assignment of a name: behind a blank the name and another blank stand in it,
and then an equals sign comes before any double quote. -/
def Imitates (name s : Text) : Prop :=
  ∃ u b v w, s = u ++ b :: (name ++ ' ' :: (v ++ '=' :: w)) ∧ isBlank b ∧ '\x22' ∉ v

/-- A text announces a name: the name stands in it as a word, and if an equals sign followed the
text, no double quote would stand between the name and the next equals sign. -/
def Announces (name s : Text) : Prop :=
  ∃ u v w, s ++ ['='] = u ++ (name ++ ' ' :: (v ++ '=' :: w)) ∧ (∀ b ∈ u.getLast?, isBlank b) ∧
    '\x22' ∉ v

variable {settings : Settings} {width : Nat} {values before after : List NamedValue}
  {m nv : NamedValue} {name s t : Text}

theorem imitates_iff (hname : IsName name) :
    Imitates name s ↔ (assignedRest? name false s).isSome := by
  rw [isSome_assignedRest?_iff, or_iff_right fun h => Bool.noConfusion h.1]
  constructor
  · rintro ⟨u, b, v, w, rfl, hb, hv⟩
    exact ⟨u, b, _, rfl, hb, (beginsAssignment_iff hname).mpr ⟨v, w, rfl, hv⟩⟩
  · rintro ⟨u, b, t, rfl, hb, ht⟩
    obtain ⟨v, w, rfl, hv⟩ := (beginsAssignment_iff hname).mp ht
    exact ⟨u, b, v, w, rfl, hb, hv⟩

theorem not_imitates_iff (hname : IsName name) :
    ¬ Imitates name s ↔ assignedRest? name false s = none := by
  rw [imitates_iff hname, Option.not_isSome_iff_eq_none]

theorem announces_iff (hname : IsName name) :
    Announces name s ↔ (assignedRest? name true (s ++ ['='])).isSome := by
  rw [isSome_assignedRest?_iff]
  constructor
  · rintro ⟨u, v, w, hs, hu, hv⟩
    have hbegins : BeginsAssignment name (name ++ ' ' :: (v ++ '=' :: w)) :=
      (beginsAssignment_iff hname).mpr ⟨v, w, rfl, hv⟩
    rcases List.eq_nil_or_concat' u with rfl | ⟨u, b, rfl⟩
    · exact Or.inl ⟨rfl, hs ▸ hbegins⟩
    · refine Or.inr ⟨u, b, _, by rw [hs]; simp, hu b (by simp), hbegins⟩
  · rintro (⟨-, h⟩ | ⟨u, b, t, hs, hb, ht⟩)
    · obtain ⟨v, w, hs, hv⟩ := (beginsAssignment_iff hname).mp h
      exact ⟨[], v, w, hs, by simp, hv⟩
    · obtain ⟨v, w, rfl, hv⟩ := (beginsAssignment_iff hname).mp ht
      exact ⟨u ++ [b], v, w, by rw [hs]; simp, by simpa using hb, hv⟩

theorem not_announces_iff (hname : IsName name) :
    ¬ Announces name s ↔ assignedRest? name true (s ++ ['=']) = none := by
  rw [announces_iff hname, Option.not_isSome_iff_eq_none]

/-- A text without equals signs imitates no assignment. -/
theorem not_imitates_of_notMem (h : '=' ∉ s) : ¬ Imitates name s := by
  rintro ⟨u, b, v, w, rfl, -, -⟩
  exact h (by simp)

section Rows

variable (hblank : ∀ c ∈ settings.lineTerminator, isBlank c)

include hblank

/-- The search passes a row with a text as it passes the text, which is escaped. -/
theorem assignedRest?_plainRow (hname : IsName name) (hm : m.IsText)
    (hcomment : m.IsUncommented settings) (hne : name ≠ m.name) :
    assignedRest? name true ((plainRow settings m).line settings width ++ t) =
      ((assignedRest? name false m.text).map fun r =>
        Text.escape m.quoting.allowVariables r ++ '\x22' :: (settings.statementEnd ++ t)).or
        (assignedRest? name true t) := by
  have hliteral : (plainRow settings m).literal =
      '\x22' :: (Text.escape m.quoting.allowVariables m.text ++ ['\x22']) := hm.literal_eq _
  have hend : assignedRest? name false (settings.statementEnd ++ t) = assignedRest? name true t :=
    assignedRest?_statementEnd hblank hname
  rw [assignedRest?_line_of_ne hm.isName hname hne, hliteral, List.cons_append,
    assignedRest?_cons_of_notMem hname hname.quote_notMem,
    Row.tail_of_comment_eq_nil (comment_plainRow hcomment), List.append_assoc,
    List.singleton_append, show isBlank '\x22' = false by decide, assignedRest?_append_quote hname,
    assignedRest?_escape hname, hend, Option.map_map]
  rfl

/-- Rows with texts that imitate no assignment are passed over. -/
theorem assignedRest?_plainRows (hname : IsName name)
    (hbefore : ∀ m ∈ before, m.IsText ∧ m.IsUncommented settings ∧ name ≠ m.name)
    (h : ∀ m ∈ before, ¬ Imitates name m.text) (t : Text) :
    assignedRest? name true (linesOf settings width (before.map (plainRow settings)) ++ t) =
      assignedRest? name true t := by
  refine assignedRest?_linesOf (fun r hr t => ?_) t
  obtain ⟨m, hm, rfl⟩ := List.mem_map.mp hr
  obtain ⟨htext, hcomment, hne⟩ := hbefore m hm
  rw [assignedRest?_plainRow hblank hname htext hcomment hne,
    (not_imitates_iff hname).mp (h m hm), Option.map_none, Option.none_or]

/-- The search stops at a text that imitates an assignment, or before it. -/
theorem exists_assignedRest?_of_imitates (hname : IsName name)
    (hbefore : ∀ m ∈ before, m.IsText ∧ m.IsUncommented settings ∧ name ≠ m.name)
    (h : ∃ m ∈ before, Imitates name m.text) (t : Text) :
    ∃ r, assignedRest? name true (linesOf settings width (before.map (plainRow settings)) ++ t) =
      some r ∧ t.length < r.length := by
  induction before with
  | nil =>
    obtain ⟨m, hm, -⟩ := h
    exact absurd hm List.not_mem_nil
  | cons m before ih =>
    obtain ⟨htext, hcomment, hne⟩ := hbefore m List.mem_cons_self
    rw [List.map_cons, linesOf_cons, List.append_assoc,
      assignedRest?_plainRow hblank hname htext hcomment hne]
    by_cases hm : Imitates name m.text
    · obtain ⟨r, hr⟩ := Option.isSome_iff_exists.mp ((imitates_iff hname).mp hm)
      rw [hr, Option.map_some, Option.some_or]
      refine ⟨_, rfl, ?_⟩
      simp only [List.length_append, List.length_cons]
      omega
    · rw [(not_imitates_iff hname).mp hm, Option.map_none, Option.none_or]
      refine ih (fun m' hm' => hbefore m' (List.mem_cons_of_mem m hm')) ?_
      obtain ⟨m', hm', him⟩ := h
      rcases List.mem_cons.mp hm' with rfl | hm'
      · exact absurd him hm
      · exact ⟨m', hm', him⟩

end Rows

/-- **Finding the row of a parameter.** In a block of texts the search finds the name of the row
exactly when no text before the row imitates an assignment of that name. -/
theorem findAssignment?_render_iff (hblank : settings.lineTerminator.all isBlank)
    (hvalues : ∀ nv ∈ values, nv.IsText ∧ nv.IsUncommented settings)
    (hsplit : printed settings (keyed values) = before ++ nv :: after) :
    WrittenWith { settings } (keyed values) fun block =>
      findAssignment? nv.name block = some ((linesOf settings
        (nameWidth settings ((before ++ nv :: after).map (plainRow settings)))
        (before.map (plainRow settings))).length + settings.indent.length) ↔
          ∀ m ∈ before, ¬ Imitates nv.name m.text := by
  have hblank' : ∀ c ∈ settings.lineTerminator, isBlank c := List.all_eq_true.mp hblank
  have htexts : ∀ m ∈ before ++ nv :: after, m.IsText ∧ m.IsUncommented settings :=
    fun m hm => hvalues m (mem_of_mem_printed (hsplit ▸ hm)).1
  have hname : IsName nv.name := (htexts nv (by simp)).1.isName
  have hbefore : ∀ m ∈ before, m.IsText ∧ m.IsUncommented settings ∧ nv.name ≠ m.name := by
    intro m hm
    obtain ⟨htext, hcomment⟩ := htexts m (by simp [hm])
    exact ⟨htext, hcomment, (name_ne_of_printed_eq hsplit).1 m hm⟩
  refine writtenWith_plainRow
    (fun m hm => ⟨(hvalues m hm).2, (hvalues m hm).1.literalFault?_eq_none⟩) ?_
  rw [hsplit, textOf_eq_linesOf]
  generalize nameWidth settings ((before ++ nv :: after).map (plainRow settings)) = width
  rw [List.map_append, List.map_cons, linesOf_append, linesOf_cons]
  set rest := linesOf settings width (after.map (plainRow settings))
  set own := (plainRow settings nv).line settings width ++ rest
  rw [findAssignment?_eq]
  constructor
  · intro hfound m hm him
    obtain ⟨r, hr, hlt⟩ := exists_assignedRest?_of_imitates hblank' hname hbefore ⟨m, hm, him⟩ own
    have hle := (suffix_of_assignedRest? hr).length_le
    rw [hr, Option.map_some, Option.some.injEq] at hfound
    rw [List.length_append] at hfound hle
    omega
  · intro h
    have hself : assignedRest? nv.name true own = some _ :=
      assignedRest?_line_self (r := plainRow settings nv) hname
    have hline : own = settings.indent ++ ((plainRow settings nv).header width ++
        ((plainRow settings nv).literal ++ ((plainRow settings nv).tail settings ++ rest))) := by
      simp [own, Row.line_eq]
    rw [assignedRest?_plainRows hblank' hname hbefore h, hself, Option.map_some, hline,
      ← List.append_assoc, List.length_append, Nat.add_sub_cancel, List.length_append]

/-- A text mentions the parameter between blanks, and the quote behind it hides the mention. -/
theorem findAssignment?_render_mention :
    let a : NamedValue := { name := ['A'], value := .text "x B y".toList }
    let b : NamedValue := { name := ['B'], value := .text ['v'] }
    WrittenWith {} (keyed [b, a]) fun block => findAssignment? ['B'] block =
      some ((linesOf .standard 20 [plainRow .standard a]).length + 12) ↔
        ∀ m ∈ [a], ¬ Imitates ['B'] m.text := by
  intro a b
  have hsurviving : surviving (keyed [b, a]) = keyed [a, b] :=
    surviving_eq_of_perm (.swap _ _ []) (by decide)
  have hsplit : printed .standard (keyed [b, a]) = [a] ++ b :: [] := by
    rw [printed, hsurviving]
    rfl
  exact findAssignment?_render_iff (by decide) (by decide) hsplit

/-- A text with an equals sign imitates the assignment of the next row. -/
theorem findAssignment?_render_decoy :
    let a : NamedValue := { name := ['A'], value := .text " B = c".toList }
    let b : NamedValue := { name := ['B'], value := .text ['v'] }
    ∃ block, (render {} (keyed [a, b])).outcome = .ok block ∧
      block = textOf .standard [plainRow .standard a, plainRow .standard b] ∧
      findAssignment? ['B'] block = some 37 ∧
      (linesOf .standard 20 [plainRow .standard a]).length + 12 = 58 := by
  intro a b
  have hsurviving : surviving (keyed [a, b]) = keyed [a, b] :=
    surviving_eq_of_perm (.refl _) (by decide)
  refine ⟨_, ?_, rfl, ?_, ?_⟩
  · rw [render, commentsOf, printed, hsurviving]
    rfl
  · decide
  · decide

end ResourceScript.Unquote

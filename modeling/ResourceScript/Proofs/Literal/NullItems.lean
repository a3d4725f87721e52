import ResourceScript.Literal.Format
import ResourceScript.Proofs.Literal.HashTable

/-!
# Null items of arrays

An array of texts, of integers or of verbatim texts leaves its null items out, wherever they stand:
only the items that are not null are written, and the first one alone tells the kind of the array.
An array of mappings does so only where it is declared as an array of texts or of integers.
Otherwise each of its items is written as a hash table, and null is none, so that an array of
mappings with a null item has no literal at all.

## Main definitions

* `Value.ItemSort`, `Value.HasSort`: the sorts of items.
* `Literal.write`: the text of a value under a declared kind.
* `Literal.SkipsNulls`: an array is written as it is written without its null items.

## Main results

* `Literal.exists_formatItems_eq`, `Literal.exists_formatObjectArray_verbatim_eq`: arrays that leave
  null items out.
* `Literal.formatObjectArray_mapping_eq_error`: an array of mappings with a null item.
* `Literal.skipsNulls_iff`: when an array skips its null items.
-/

namespace ResourceScript

/-! ### Sorts of items -/

namespace Value

/-- What the items of an array are: texts, integers, mappings, or literals. -/
inductive ItemSort where
  | text
  | int
  | mapping
  | verbatim

/-- The kind of an array of such items that is not declared. -/
def ItemSort.arrayKind : ItemSort → Kind
  | text => .textArray
  | int => .intArray
  | mapping | verbatim => .objectArray

/-- A value is an item of a sort. A mapping holds nulls, texts, and lists of texts and nulls. -/
inductive HasSort : ItemSort → Value → Prop
  | text (s : Text) : HasSort .text (.text s)
  | int (n : Int) : HasSort .int (.int n)
  | mapping (sort : MappingSort) (entries : List (Text × Value))
      (h : ∀ e ∈ entries, e.2.isField) : HasSort .mapping (.mapping sort entries)
  | verbatim (s : Text) : HasSort .verbatim (.classified .verbatim (.text s))

variable {v : Value} {sort : ItemSort}

theorem exists_quotedItems?_eq {items : List Value}
    (h : ∀ v ∈ items, ∃ s, v.quotedForm? = some s) : ∃ ts, quotedItems? items = some ts := by
  induction items with
  | nil => exact ⟨[], rfl⟩
  | cons v items ih =>
    obtain ⟨⟨s, hs⟩, hitems⟩ := List.forall_mem_cons.mp h
    obtain ⟨ts, hts⟩ := ih hitems
    exact ⟨s :: ts, by rw [quotedItems?, hs, hts]⟩

theorem exists_quotedEntries?_eq {entries : List (Text × Value)}
    (h : ∀ e ∈ entries, ∃ s, e.2.quotedForm? = some s) :
    ∃ ts, quotedEntries? entries = some ts := by
  induction entries with
  | nil => exact ⟨[], rfl⟩
  | cons e entries ih =>
    obtain ⟨⟨s, hs⟩, hentries⟩ := List.forall_mem_cons.mp h
    obtain ⟨ts, hts⟩ := ih hentries
    exact ⟨_, by rw [quotedEntries?, hs, hts]⟩

theorem exists_quotedForm?_of_isField (h : v.isField) : ∃ s, v.quotedForm? = some s := by
  cases v with
  | null => exact ⟨_, rfl⟩
  | text s => exact ⟨_, rfl⟩
  | list items =>
    have hitems : ∀ v ∈ items, ∃ s, v.quotedForm? = some s := by
      intro v hv
      have hv := List.all_eq_true.mp h v hv
      cases v with
      | null => exact ⟨_, rfl⟩
      | text s => exact ⟨_, rfl⟩
      | _ => simp [isNull, asText?] at hv
    obtain ⟨ts, hts⟩ := exists_quotedItems?_eq hitems
    exact ⟨_, by rw [quotedForm?, hts]; rfl⟩
  | _ => simp [isField] at h

theorem exists_quotedForm?_mapping {entries : List (Text × Value)}
    (h : ∀ e ∈ entries, e.2.isField) (sort : MappingSort) :
    ∃ s, (mapping sort entries).quotedForm? = some s := by
  obtain ⟨ts, hts⟩ := exists_quotedEntries?_eq fun e he => exists_quotedForm?_of_isField (h e he)
  cases sort with
  | plain => exact ⟨_, by rw [quotedForm?, hts]; rfl⟩
  | ordered =>
    cases entries with
    | nil => exact ⟨_, rfl⟩
    | cons e entries =>
      exact ⟨_, by rw [quotedForm?, hts]; exacts [rfl, List.cons_ne_nil e entries]⟩

/-- An item of any sort has a plain form. -/
theorem HasSort.exists_plainForm_eq (h : v.HasSort sort) : ∃ s, Literal.plainForm v = .ok s := by
  cases h with
  | text s => exact ⟨s, rfl⟩
  | int n => exact ⟨Text.ofInt n, rfl⟩
  | mapping sort entries h =>
    obtain ⟨s, hs⟩ := exists_quotedForm?_mapping h sort
    have hform : (Value.mapping sort entries).plainForm? = some s := hs
    exact ⟨s, by rw [Literal.plainForm, hform]⟩
  | verbatim s => exact ⟨s, rfl⟩

/-- A mapping is written as a hash table. -/
theorem HasSort.exists_formatHashTable_eq (h : v.HasSort .mapping) :
    ∃ l, Literal.formatHashTable v = .ok l := by
  cases h with
  | mapping sort entries h =>
    have hentries : ∀ e ∈ entries, ∃ l,
        (Literal.formatEntry e.2).map (fun t => e.1 ++ '=' :: t) = .ok l := by
      intro e he
      obtain ⟨l, hl, -⟩ := Literal.exists_formatEntry_eq (h e he)
      exact ⟨_, by rw [hl]; rfl⟩
    obtain ⟨ls, hls⟩ := exists_mapM_eq hentries
    exact ⟨_, by rw [Literal.formatHashTable, hls]; rfl⟩

end Value

namespace Literal

open Value (HasSort ItemSort)

/-- The text of a value under a declared kind. -/
def write (declared : Option Kind) (ctx : Context) (v : Value) : Except FormError Text := do
  format ctx (← classify declared v)

/-- An array is written as it is written without the null items behind its first item. -/
def SkipsNulls (declared : Option Kind) (ctx : Context) (first : Value) (rest : List Value) :
    Prop :=
  ∃ l, write declared ctx (.list (first :: rest)) = .ok l ∧
    write declared ctx (.list (first :: rest.filter (!·.isNull))) = .ok l

variable {declared : Option Kind} {ctx : Context} {first : Value} {rest items : List Value}
  {sort : ItemSort} {item : Value → Except FormError Text} {q : Quoting} {s : Text}

/-! ### Arrays that leave null items out -/

/-- Without its null items, an array has the same items that are not null. -/
theorem filter_cons_filter (first : Value) (rest : List Value) :
    (first :: rest.filter (!·.isNull)).filter (!·.isNull) =
      (first :: rest).filter (!·.isNull) := by
  simp [List.filter_cons, List.filter_filter]

theorem exists_mapM_filter_eq (h : ∀ v ∈ items, v.isNull ∨ ∃ t, item v = .ok t) :
    ∃ ts, (items.filter (!·.isNull)).mapM item = .ok ts := by
  refine exists_mapM_eq fun v hv => ?_
  obtain ⟨hmem, hnull⟩ := List.mem_filter.mp hv
  exact (h v hmem).resolve_left (by simpa using hnull)

theorem exists_formatItems_eq (h : ∀ v ∈ first :: rest, v.isNull ∨ ∃ t, item v = .ok t) :
    ∃ l, formatItems item (.list (first :: rest)) = .ok l ∧
      formatItems item (.list (first :: rest.filter (!·.isNull))) = .ok l := by
  obtain ⟨ts, hts⟩ := exists_mapM_filter_eq h
  refine ⟨arrayOf [','] ts, ?_, ?_⟩
  · simp only [formatItems, Value.isTruthy, Value.items?, hts]
    rfl
  · simp only [formatItems, Value.isTruthy, Value.items?, filter_cons_filter, hts]
    rfl

theorem formatObjectArray_verbatim_cons (q : Quoting) (s : Text) (rest : List Value) :
    formatObjectArray q (.list (.classified .verbatim (.text s) :: rest)) = do
      let written ← ((.classified .verbatim (.text s) :: rest).filter (!·.isNull)).mapM plainForm
      return arrayOf [] written := rfl

theorem exists_formatObjectArray_verbatim_eq
    (h : ∀ v ∈ .classified .verbatim (.text s) :: rest, v.isNull ∨ ∃ t, plainForm v = .ok t) :
    ∃ l, formatObjectArray q (.list (.classified .verbatim (.text s) :: rest)) = .ok l ∧
      formatObjectArray q (.list (.classified .verbatim (.text s) ::
        rest.filter (!·.isNull))) = .ok l := by
  obtain ⟨ts, hts⟩ := exists_mapM_filter_eq h
  refine ⟨arrayOf [] ts, ?_, ?_⟩
  · rw [formatObjectArray_verbatim_cons, hts]
    rfl
  · rw [formatObjectArray_verbatim_cons, filter_cons_filter, hts]
    rfl

/-! ### Arrays of mappings -/

theorem formatObjectArray_mapping_cons (q : Quoting) (sort : MappingSort)
    (entries : List (Text × Value)) (rest : List Value) :
    formatObjectArray q (.list (.mapping sort entries :: rest)) = do
      let written ← (.mapping sort entries :: rest).mapM formatHashTable
      return arrayOf [','] written := rfl

/-- An array of mappings without null items has a literal. -/
theorem exists_formatObjectArray_mapping_eq (h : ∀ v ∈ first :: rest, v.HasSort .mapping) :
    ∃ l, formatObjectArray q (.list (first :: rest)) = .ok l := by
  obtain ⟨ts, hts⟩ := exists_mapM_eq fun v hv => (h v hv).exists_formatHashTable_eq
  cases h first List.mem_cons_self with
  | mapping sort entries h => exact ⟨_, by rw [formatObjectArray_mapping_cons, hts]; rfl⟩

/-- A null item is written as a hash table like all others, and it is none. -/
theorem formatObjectArray_mapping_eq_error (hfirst : first.HasSort .mapping)
    (hrest : ∀ v ∈ rest, v.isNull ∨ v.HasSort .mapping) (hnull : ∃ v ∈ rest, v.isNull) :
    formatObjectArray q (.list (first :: rest)) = .error .notMapping := by
  have hformNull : ∀ v : Value, v.isNull → formatHashTable v = .error .notMapping := by
    rintro (_ | _) h
    · rfl
    all_goals exact absurd h Bool.false_ne_true
  have herror : (first :: rest).mapM formatHashTable = .error .notMapping := by
    refine mapM_eq_error (fun v hv => ?_) ?_
    · rcases List.mem_cons.mp hv with rfl | hv
      · exact Or.inl hfirst.exists_formatHashTable_eq
      · exact (hrest v hv).symm.imp HasSort.exists_formatHashTable_eq (hformNull v)
    · obtain ⟨v, hv, h⟩ := hnull
      exact ⟨v, List.mem_cons_of_mem first hv, hformNull v h⟩
  cases hfirst with
  | mapping sort entries h =>
    rw [formatObjectArray_mapping_cons, herror]
    rfl

/-! ### Arrays under a declared kind -/

/-- The kind of an array is the declared one of an array of texts or integers, or else it is told
by the first item. -/
theorem arrayKind_cons (h : first.HasSort sort) (rest : List Value) :
    arrayKind declared (first :: rest) = if declared = some .textArray then .textArray
      else if declared = some .intArray then .intArray else sort.arrayKind := by
  rcases declared with _ | kind
  · cases h <;> rfl
  · cases kind <;> cases h <;> rfl

/-- An array is written as one of its kind. -/
theorem write_cons {kind : Kind} (h : arrayKind declared (first :: rest) = kind) :
    write declared ctx (.list (first :: rest)) = format ctx ⟨kind, .list (first :: rest)⟩ := by
  rw [← h]
  rfl

theorem skipsNulls_of_arrayKind {kind : Kind}
    (hkind : ∀ rest, arrayKind declared (first :: rest) = kind)
    (h : ∃ l, format ctx ⟨kind, .list (first :: rest)⟩ = .ok l ∧
      format ctx ⟨kind, .list (first :: rest.filter (!·.isNull))⟩ = .ok l) :
    SkipsNulls declared ctx first rest := by
  rwa [SkipsNulls, write_cons (hkind _), write_cons (hkind _)]

/-- Arrays of texts and of integers leave null items out, whatever their items are. -/
theorem skipsNulls_of_items (h : ∀ v ∈ first :: rest, v.isNull ∨ ∃ t, plainForm v = .ok t)
    (hkind : (∀ rest, arrayKind declared (first :: rest) = .textArray) ∨
      ∀ rest, arrayKind declared (first :: rest) = .intArray) :
    SkipsNulls declared ctx first rest := by
  rcases hkind with hkind | hkind
  · refine skipsNulls_of_arrayKind hkind (exists_formatItems_eq fun v hv => (h v hv).imp_right ?_)
    rintro ⟨t, ht⟩
    exact ⟨ctx.quoting.quote t, by rw [ht]; rfl⟩
  · exact skipsNulls_of_arrayKind hkind (exists_formatItems_eq h)

section Uniform

variable (hfirst : first.HasSort sort) (hrest : ∀ v ∈ rest, v.isNull ∨ v.HasSort sort)

include hfirst

theorem arrayKind_of_not_declared
    (hdeclared : ¬ (declared = some .textArray ∨ declared = some .intArray)) (rest : List Value) :
    arrayKind declared (first :: rest) = sort.arrayKind := by
  obtain ⟨htext, hint⟩ := not_or.mp hdeclared
  rw [arrayKind_cons hfirst, if_neg htext, if_neg hint]

include hrest

/-- Null items are left out unless hash tables are to be written. -/
theorem skipsNulls_of_imp (h : sort = .mapping → (∃ v ∈ rest, v.isNull) →
      declared = some .textArray ∨ declared = some .intArray) :
    SkipsNulls declared ctx first rest := by
  have hitems : ∀ v ∈ first :: rest, v.isNull ∨ ∃ t, plainForm v = .ok t :=
    List.forall_mem_cons.mpr ⟨Or.inr hfirst.exists_plainForm_eq,
      fun v hv => (hrest v hv).imp_right HasSort.exists_plainForm_eq⟩
  by_cases hdeclared : declared = some .textArray ∨ declared = some .intArray
  · refine skipsNulls_of_items hitems (hdeclared.imp (fun h rest => ?_) fun h rest => ?_)
    · rw [arrayKind_cons hfirst, if_pos h]
    · rw [arrayKind_cons hfirst, if_neg (by simp [h]), if_pos h]
  have hkind := arrayKind_of_not_declared hfirst hdeclared
  cases sort with
  | text => exact skipsNulls_of_items hitems (Or.inl hkind)
  | int => exact skipsNulls_of_items hitems (Or.inr hkind)
  | verbatim =>
    refine skipsNulls_of_arrayKind hkind ?_
    cases hfirst with
    | verbatim s => exact exists_formatObjectArray_verbatim_eq hitems
  | mapping =>
    have hnone : ∀ v ∈ rest, ¬ v.isNull := fun v hv hnull => hdeclared (h rfl ⟨v, hv, hnull⟩)
    have hall : ∀ v ∈ first :: rest, v.HasSort .mapping :=
      List.forall_mem_cons.mpr ⟨hfirst, fun v hv => (hrest v hv).resolve_left (hnone v hv)⟩
    obtain ⟨l, hl⟩ := exists_formatObjectArray_mapping_eq (q := ctx.quoting) hall
    refine skipsNulls_of_arrayKind hkind ⟨l, hl, ?_⟩
    rwa [List.filter_eq_self.mpr fun v hv => by simpa using hnone v hv]

/-- **When an array skips its null items.** Let the items of an array be nulls and items of the sort
of the first one. The array is written, and as it is written without its nulls, unless it consists
of mappings, holds a null and is not declared as an array of texts or of integers. Then it has no
literal. -/
theorem skipsNulls_iff :
    (SkipsNulls declared ctx first rest ↔ (sort = .mapping → (∃ v ∈ rest, v.isNull) →
      declared = some .textArray ∨ declared = some .intArray)) ∧
    (¬ SkipsNulls declared ctx first rest →
      write declared ctx (.list (first :: rest)) = .error .notMapping) := by
  by_cases h : sort = .mapping → (∃ v ∈ rest, v.isNull) →
      declared = some .textArray ∨ declared = some .intArray
  · have hskips : SkipsNulls declared ctx first rest := skipsNulls_of_imp hfirst hrest h
    exact ⟨iff_of_true hskips h, fun hnot => absurd hskips hnot⟩
  · obtain ⟨rfl, hnull, hdeclared⟩ : sort = .mapping ∧ (∃ v ∈ rest, v.isNull) ∧
        ¬ (declared = some .textArray ∨ declared = some .intArray) := by
      simpa only [Classical.not_imp] using h
    have herror : write declared ctx (.list (first :: rest)) = .error .notMapping := by
      rw [write_cons (arrayKind_of_not_declared hfirst hdeclared rest)]
      exact formatObjectArray_mapping_eq_error hfirst hrest hnull
    refine ⟨iff_of_false ?_ h, fun _ => herror⟩
    rintro ⟨l, hl, -⟩
    exact absurd (herror.symm.trans hl) (by simp)

end Uniform

/-- Nulls at both ends of an array of mappings that is declared as an array of texts. -/
theorem skipsNulls_iff_declared :
    let first : Value := .mapping .plain [(['k'], .text ['v']), (['n'], .list [.null, .text []])]
    let rest : List Value := [.null, .mapping .ordered [(['k'], .null)], .null]
    first.HasSort .mapping ∧ (∀ v ∈ rest, v.isNull ∨ v.HasSort .mapping) ∧
      SkipsNulls (some .textArray) {} first rest := by
  intro first rest
  have hfirst : first.HasSort .mapping := .mapping .plain _ (by decide)
  have hsecond : (Value.mapping .ordered [(['k'], .null)]).HasSort .mapping :=
    .mapping .ordered _ (by decide)
  have hrest : ∀ v ∈ rest, v.isNull ∨ v.HasSort .mapping := by
    simp [rest, hsecond, Value.isNull]
  exact ⟨hfirst, hrest, (skipsNulls_iff hfirst hrest).1.mpr fun _ _ => Or.inl rfl⟩

/-- A null behind a mapping leaves an array that is not declared without a literal, though it would
have one without the null. -/
theorem not_skipsNulls_mapping :
    let first : Value := .mapping .plain [(['a'], .text ['x'])]
    first.HasSort .mapping ∧ write none {} (.list [first, .null]) = .error .notMapping ∧
      write none {} (.list [first]) = .ok "@(@\x7ba='x'\x7d)".toList ∧
      ¬ SkipsNulls none {} first [.null] := by
  intro first
  have herror : write none {} (.list [first, .null]) = .error .notMapping := by decide
  refine ⟨.mapping .plain _ (by decide), herror, by decide, ?_⟩
  rintro ⟨l, hl, -⟩
  exact absurd (herror.symm.trans hl) (by simp)

end Literal

end ResourceScript

import ResourceScript.Proofs.Block.Literal
import ResourceScript.Proofs.Block.Rows
import ResourceScript.Proofs.Text.Delimiter
import ResourceScript.Proofs.Text.Join

/-!
# Reading hash tables back

An array of mappings is written as an array of hash tables. A text in it stands between single
quotes and its own single quotes are doubled, so that the first single quote that is not doubled
ends it, whatever else it holds. A key ends with the first equals sign. Lists, tables and the array
itself end with the sign that follows their last part where a separator could follow. Every part is
therefore read back from what follows it, and the literal determines the tables up to what it does
not show: the sort of a mapping and the null items of the lists in it.

## Main definitions

* `Value.isField`, `Value.isTable`: values of entries, and mappings of such.
* `Value.withoutNulls`, `Value.shownEntries`: the entries that a table shows.
* `Literal.IsField`, `Literal.IsEntry`, `Literal.IsTable`: the literals of the parts.
* `Literal.Shows`: the literal of the table with given entries.

## Main results

* `Literal.singleQuoted_append_inj`: a text between single quotes is read back.
* `Literal.IsField.append_inj`, `Literal.IsEntry.append_inj`, `Literal.IsTable.append_inj`: the
  parts of a table and a table are read back.
* `Literal.formatObjectArray_eq_iff`: an array shows its tables.
-/

namespace ResourceScript

open Text (IsKey)

/-! ### Tables -/

namespace Value

/-- The value of an entry: null, a text, or a list of texts and nulls. -/
def isField : Value → Bool
  | .null | .text _ => true
  | .list items => items.all fun v => v.isNull || v.asText?.isSome
  | _ => false

/-- A mapping of keys to such values. -/
def isTable : Value → Bool
  | .mapping _ entries => entries.all fun e => decide (IsKey e.1) && e.2.isField
  | _ => false

/-- A list without its null items; other values stay. -/
def withoutNulls : Value → Value
  | .list items => .list (items.filter (!·.isNull))
  | v => v

/-- The entries that a table shows. -/
def shownEntries : Value → List (Text × Value)
  | .mapping _ entries => entries.map fun e => (e.1, e.2.withoutNulls)
  | _ => []

end Value

namespace Literal

/-- The literals of the values of entries. -/
inductive IsField : Value → Text → Prop
  | null : IsField .null "$null".toList
  | text (s : Text) : IsField (.text s) (singleQuoted s)
  | list (ts : List Text) : IsField (.list (ts.map .text)) (arrayOf [','] (ts.map singleQuoted))

/-- The text of an entry. -/
inductive IsEntry : Text × Value → Text → Prop
  | mk {k l : Text} {v : Value} (hk : IsKey k) (hv : IsField v l) : IsEntry (k, v) (k ++ '=' :: l)

/-- The literals of tables. -/
inductive IsTable : List (Text × Value) → Text → Prop
  | mk {es : List (Text × Value)} {ls : List Text} (h : List.Forall₂ IsEntry es ls) :
    IsTable es (hashTableOf ls)

variable {v w : Value} {e e' : Text × Value} {es es' : List (Text × Value)}
  {items items' : List Value} {q q' : Quoting} {s s' t u l m : Text} {c d : Char}

/-! ### Reading the parts -/

private theorem double_cons_quote (s : Text) :
    Text.replaceChar '\x27' ['\x27', '\x27'] ('\x27' :: s) =
      '\x27' :: '\x27' :: Text.replaceChar '\x27' ['\x27', '\x27'] s := rfl

private theorem double_cons (hc : c ≠ '\x27') (s : Text) :
    Text.replaceChar '\x27' ['\x27', '\x27'] (c :: s) =
      c :: Text.replaceChar '\x27' ['\x27', '\x27'] s := by
  simp [Text.replaceChar, hc]

/-- A doubled quote is not taken for the closing one, if no quote follows that. -/
private theorem double_cons_ne (hc : c ≠ '\x27') {x : Char} : '\x27' :: c :: t ≠
    Text.replaceChar '\x27' ['\x27', '\x27'] (x :: s) ++ u := by
  intro h
  by_cases hx : x = '\x27'
  · rw [hx, double_cons_quote] at h
    exact hc (List.cons.inj (List.cons.inj h).2).1
  · rw [double_cons hx] at h
    exact hx (List.cons.inj h).1.symm

private theorem double_append_inj (hc : c ≠ '\x27') (hd : d ≠ '\x27')
    (h : Text.replaceChar '\x27' ['\x27', '\x27'] s ++ '\x27' :: c :: t =
      Text.replaceChar '\x27' ['\x27', '\x27'] s' ++ '\x27' :: d :: u) :
    s = s' ∧ c = d ∧ t = u := by
  induction s generalizing s' with
  | nil =>
    cases s' with
    | nil => exact ⟨rfl, List.cons.inj (List.cons.inj h).2⟩
    | cons y s' => exact absurd h (double_cons_ne hc)
  | cons x s ih =>
    cases s' with
    | nil => exact absurd h.symm (double_cons_ne hd)
    | cons y s' =>
      have hxy : x = y ∧ Text.replaceChar '\x27' ['\x27', '\x27'] s ++ '\x27' :: c :: t =
          Text.replaceChar '\x27' ['\x27', '\x27'] s' ++ '\x27' :: d :: u := by
        by_cases hx : x = '\x27' <;> by_cases hy : y = '\x27'
        · rw [hx, hy, double_cons_quote, double_cons_quote] at h
          exact ⟨hx.trans hy.symm, (List.cons.inj (List.cons.inj h).2).2⟩
        · rw [hx, double_cons_quote, double_cons hy] at h
          exact absurd (List.cons.inj h).1.symm hy
        · rw [hy, double_cons_quote, double_cons hx] at h
          exact absurd (List.cons.inj h).1 hx
        · rw [double_cons hx, double_cons hy] at h
          exact List.cons.inj h
      obtain ⟨rfl, htail⟩ := hxy
      obtain ⟨rfl, hrest⟩ := ih htail
      exact ⟨rfl, hrest⟩

/-- **Reading a text between single quotes.** The text and what follows its closing quote are
determined by the whole, if that is not followed by another single quote. -/
theorem singleQuoted_append_inj (hc : c ≠ '\x27') (hd : d ≠ '\x27')
    (h : singleQuoted s ++ c :: t = singleQuoted s' ++ d :: u) : s = s' ∧ c = d ∧ t = u := by
  simp only [singleQuoted, List.cons_append, List.append_assoc, List.nil_append] at h
  exact double_append_inj hc hd (List.cons.inj h).2

/-- A list of texts is read back. -/
theorem arrayOf_singleQuoted_append_inj {ts ts' : List Text}
    (h : arrayOf [','] (ts.map singleQuoted) ++ t = arrayOf [','] (ts'.map singleQuoted) ++ u) :
    ts = ts' ∧ t = u := by
  have hparts (ts : List Text) :
      List.Forall₂ (fun s l => l = singleQuoted s) ts (ts.map singleQuoted) := by
    rw [List.forall₂_map_right_iff, List.forall₂_same]
    exact fun _ _ => rfl
  have hplain {c : Char} (hc : c ∈ [',', ')']) : c ≠ '\x27' := by
    rintro rfl
    exact absurd hc (by decide)
  simp only [arrayOf, List.cons_append, List.append_assoc, List.nil_append] at h
  refine Text.joinWith_append_inj ?_ ?_ (by decide) (hparts ts) (hparts ts')
    (List.cons.inj (List.cons.inj h).2).2
  · rintro s s' _ _ c d t u rfl rfl hc hd h
    exact singleQuoted_append_inj (hplain hc) (hplain hd) h
  · rintro s _ t u rfl h
    exact absurd (List.cons.inj h).1 (by decide)

/-- **Reading the value of an entry.** Its first character tells what it is. -/
theorem IsField.append_inj (hv : IsField v l) (hw : IsField w m) (hc : c ≠ '\x27') (hd : d ≠ '\x27')
    (h : l ++ c :: t = m ++ d :: u) : v = w ∧ c = d ∧ t = u := by
  cases hv with
  | null =>
    cases hw with
    | null => exact ⟨rfl, List.cons.inj (List.append_cancel_left h)⟩
    | text _ => exact absurd (List.cons.inj h).1 (by decide)
    | list _ => exact absurd (List.cons.inj h).1 (by decide)
  | text s =>
    cases hw with
    | null => exact absurd (List.cons.inj h).1 (by decide)
    | text s' =>
      obtain ⟨rfl, hrest⟩ := singleQuoted_append_inj hc hd h
      exact ⟨rfl, hrest⟩
    | list _ => exact absurd (List.cons.inj h).1 (by decide)
  | list ts =>
    cases hw with
    | null => exact absurd (List.cons.inj h).1 (by decide)
    | text _ => exact absurd (List.cons.inj h).1 (by decide)
    | list ts' =>
      obtain ⟨rfl, hrest⟩ := arrayOf_singleQuoted_append_inj h
      exact ⟨rfl, List.cons.inj hrest⟩

/-- **Reading an entry.** The first equals sign ends the key. -/
theorem IsEntry.append_inj (he : IsEntry e l) (he' : IsEntry e' m) (hc : c ≠ '\x27')
    (hd : d ≠ '\x27') (h : l ++ c :: t = m ++ d :: u) : e = e' ∧ c = d ∧ t = u := by
  obtain ⟨hk, hv⟩ := he
  obtain ⟨hk', hv'⟩ := he'
  rw [List.append_assoc, List.append_assoc, List.cons_append, List.cons_append] at h
  obtain ⟨rfl, hrest⟩ := Text.append_cons_inj_of_notMem hk.equals_notMem hk'.equals_notMem h
  obtain ⟨rfl, hrest⟩ := hv.append_inj hv' hc hd hrest
  exact ⟨rfl, hrest⟩

/-- No entry begins with the brace that closes a table. -/
theorem IsEntry.append_ne_cons (he : IsEntry e l) : l ++ t ≠ '\x7d' :: u := by
  obtain ⟨hk, -⟩ := he
  obtain ⟨x, k, rfl, -⟩ := hk.exists_cons
  intro h
  exact hk.brace_notMem ((List.cons.inj h).1 ▸ List.mem_cons_self)

/-- **Reading a table.** The entries are read one after another, up to the closing brace. -/
theorem IsTable.append_inj (h : IsTable es l) (h' : IsTable es' m) (heq : l ++ t = m ++ u) :
    es = es' ∧ t = u := by
  obtain ⟨hls⟩ := h
  obtain ⟨hms⟩ := h'
  have hplain {c : Char} (hc : c ∈ [';', '\x7d']) : c ≠ '\x27' := by
    rintro rfl
    exact absurd hc (by decide)
  simp only [hashTableOf, List.cons_append, List.append_assoc, List.nil_append] at heq
  exact Text.joinWith_append_inj (fun he he' hc hd => he.append_inj he' (hplain hc) (hplain hd))
    IsEntry.append_ne_cons (by decide) hls hms (List.cons.inj (List.cons.inj heq).2).2

/-- **Reading an array of tables.** -/
theorem arrayOf_isTable_inj {tables tables' : List (List (Text × Value))} {ls ms : List Text}
    (h : List.Forall₂ IsTable tables ls) (h' : List.Forall₂ IsTable tables' ms)
    (heq : arrayOf [','] ls = arrayOf [','] ms) : tables = tables' := by
  refine (Text.joinWith_append_inj (t := []) (u := []) ?_ ?_ (by decide) h h'
    (List.cons.inj (List.cons.inj heq).2).2).1
  · intro es es' l m c d t u hl hm _ _ heq
    obtain ⟨rfl, hrest⟩ := hl.append_inj hm heq
    exact ⟨rfl, List.cons.inj hrest⟩
  · rintro es l t u ⟨_⟩ heq
    exact absurd (List.cons.inj heq).1 (by decide)

/-! ### Writing the parts -/

/-- The null items of a list are not written. -/
theorem formatEntry_withoutNulls (v : Value) : formatEntry v.withoutNulls = formatEntry v := by
  cases v with
  | list items => simp [Value.withoutNulls, formatEntry, List.filter_filter]
  | _ => rfl

theorem exists_formatEntry_eq (h : v.isField) :
    ∃ l, formatEntry v = .ok l ∧ IsField v.withoutNulls l := by
  cases v with
  | null => exact ⟨_, rfl, .null⟩
  | text s => exact ⟨_, rfl, .text s⟩
  | list items =>
    have hall : (items.filter (!·.isNull)).all (·.asText?.isSome) := by
      rw [List.all_eq_true]
      intro v hv
      obtain ⟨hmem, hnull⟩ := List.mem_filter.mp hv
      have hitem := List.all_eq_true.mp h v hmem
      simpa [Bool.not_eq_true' _ ▸ hnull] using hitem
    obtain ⟨ts, hts⟩ := Value.exists_map_of_all (fun _ _ => Value.eq_text_of_asText?) hall
    have hwritten : (ts.map Value.text).mapM (fun v => (plainForm v).map singleQuoted) =
        .ok (ts.map singleQuoted) := by
      rw [mapM_eq_ok_iff, List.forall₂_map_left_iff, List.forall₂_map_right_iff, List.forall₂_same]
      exact fun _ _ => rfl
    refine ⟨arrayOf [','] (ts.map singleQuoted), ?_, ?_⟩
    · rw [formatEntry, hts, hwritten]
      rfl
    · rw [Value.withoutNulls, hts]
      exact .list ts
  | _ => simp [Value.isField] at h

/-- A table is written by what it shows. -/
theorem formatHashTable_eq_shownEntries (h : v.isTable) :
    formatHashTable v = formatHashTable (.mapping .plain v.shownEntries) := by
  cases v with
  | mapping sort es =>
    simp only [formatHashTable, Value.shownEntries, List.mapM_map, Function.comp_def,
      formatEntry_withoutNulls]
  | _ => simp [Value.isTable] at h

theorem exists_formatHashTable_eq (h : v.isTable) :
    ∃ l, formatHashTable v = .ok l ∧ IsTable v.shownEntries l := by
  cases v with
  | mapping sort es =>
    have hentries : ∀ e ∈ es, ∃ l, (formatEntry e.2).map (fun t => e.1 ++ '=' :: t) = .ok l ∧
        IsEntry (e.1, e.2.withoutNulls) l := by
      intro e he
      have hvalid := List.all_eq_true.mp h e he
      rw [Bool.and_eq_true, decide_eq_true_eq] at hvalid
      obtain ⟨l, hl, hfield⟩ := exists_formatEntry_eq hvalid.2
      exact ⟨_, by rw [hl]; rfl, .mk hvalid.1 hfield⟩
    obtain ⟨ls, hls, htable⟩ := exists_mapM_eq_ok hentries
    exact ⟨hashTableOf ls, by rw [formatHashTable, hls]; rfl, .mk htable⟩
  | _ => simp [Value.isTable] at h

/-- What a table with the given entries is written as, and that it can be read back. -/
def Shows (entries : List (Text × Value)) (l : Text) : Prop :=
  formatHashTable (.mapping .plain entries) = .ok l ∧ IsTable entries l

/-- An array of tables consists of what they show. -/
theorem exists_formatObjectArray_eq (hne : items ≠ []) (h : ∀ v ∈ items, v.isTable) (q : Quoting) :
    ∃ ls, List.Forall₂ Shows (items.map Value.shownEntries) ls ∧
      formatObjectArray q (.list items) = .ok (arrayOf [','] ls) := by
  have htables : ∀ v ∈ items, ∃ l, formatHashTable v = .ok l ∧ Shows v.shownEntries l := by
    intro v hv
    obtain ⟨l, hl, htable⟩ := exists_formatHashTable_eq (h v hv)
    exact ⟨l, hl, formatHashTable_eq_shownEntries (h v hv) ▸ hl, htable⟩
  obtain ⟨ls, hls, hshows⟩ := exists_mapM_eq_ok htables
  refine ⟨ls, hshows, ?_⟩
  obtain ⟨v, vs, rfl⟩ := List.exists_cons_of_ne_nil hne
  have hv := h v List.mem_cons_self
  cases v with
  | mapping sort es =>
    rw [formatObjectArray]
    simp only [Value.isTruthy, firstItem, Value.items?, Option.getD_some, bind, Except.bind]
    rw [hls]
    rfl
  | _ => simp [Value.isTable] at hv

/-- **An array shows its tables.** An array of mappings from keys to nulls, texts and lists of texts
and nulls has a literal, and two such arrays have the same one exactly if they have the same tables,
with the same keys in the same order and with the same values, null items of lists aside. -/
theorem formatObjectArray_eq_iff (hne : items ≠ []) (hne' : items' ≠ [])
    (h : ∀ v ∈ items, v.isTable) (h' : ∀ v ∈ items', v.isTable) :
    (∃ l, formatObjectArray q (.list items) = .ok l) ∧
      (formatObjectArray q (.list items) = formatObjectArray q' (.list items') ↔
        items.map Value.shownEntries = items'.map Value.shownEntries) := by
  obtain ⟨ls, hls, hliteral⟩ := exists_formatObjectArray_eq hne h q
  obtain ⟨ms, hms, hliteral'⟩ := exists_formatObjectArray_eq hne' h' q'
  refine ⟨⟨_, hliteral⟩, fun heq => ?_, fun heq => ?_⟩
  · rw [hliteral, hliteral'] at heq
    exact arrayOf_isTable_inj (hls.imp fun _ _ hl => hl.2) (hms.imp fun _ _ hm => hm.2)
      (Except.ok.inj heq)
  · have hunique : Relator.RightUnique Shows := fun _ _ _ hl hm =>
      Except.ok.inj (hl.1.symm.trans hm.1)
    rw [hliteral, hliteral', List.right_unique_forall₂' hunique hls (heq ▸ hms)]

/-- Texts with quotes, braces and the token for null, an ordered mapping, and a list with a null
item in another place. -/
theorem formatObjectArray_eq_iff_nulls :
    let first : Value := .text "'; k='\x7d".toList
    let texts : List Value := [.text "$null".toList, .text "','".toList]
    let items : List Value :=
      [.mapping .plain [(['k'], first), (['n'], .list (.null :: texts))],
        .mapping .plain [], .mapping .ordered [(['n'], .null)]]
    let items' : List Value :=
      [.mapping .ordered [(['k'], first), (['n'], .list (texts ++ [.null]))],
        .mapping .plain [], .mapping .plain [(['n'], .null)]]
    formatObjectArray {} (.list items) = formatObjectArray {} (.list items') ∧
      items.map Value.shownEntries = items'.map Value.shownEntries := by
  intro first texts items items'
  have hshown : items.map Value.shownEntries = items'.map Value.shownEntries := by
    simp [items, items', texts, Value.shownEntries, Value.withoutNulls, Value.isNull]
  have hne : items ≠ [] := List.cons_ne_nil _ _
  have hne' : items' ≠ [] := List.cons_ne_nil _ _
  exact ⟨(formatObjectArray_eq_iff hne hne' (by decide) (by decide)).2.mpr hshown, hshown⟩

end Literal

end ResourceScript

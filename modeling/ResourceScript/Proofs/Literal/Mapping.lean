import ResourceScript.Literal.Array
import ResourceScript.Proofs.Text.Delimiter
import ResourceScript.Proofs.Text.Name

/-!
# The literal of a mapping

The texts of a mapping are written between double quotes as they are. What stands between two texts
can therefore stand in a text as well, and the literal of several entries is also that of a single
one, whose text holds all of them. A literal tells its mapping only if it has at most one entry and
no other entry seems to begin in the text of that; two mappings are still told apart when no text of
one holds what comes before an entry of the other.

## Main definitions

* `Literal.textMapping`, `Literal.IsTextMapping`: mappings from identifiers to texts.
* `Literal.entryLead`, `Literal.entryBoundary`: what stands between two texts.
* `Literal.joined`: the texts of a mapping with what stands between them.

## Main results

* `Literal.formatMapping_eq_iff`: mappings have the same literal if they begin with the same key and
  their joined texts are the same.
* `Literal.eq_of_joined_eq`: joined texts that hold no beginning of an entry.
* `Literal.formatMapping_determines_iff`: when a literal tells its mapping.
-/

namespace ResourceScript.Literal

open Text (isIdentifier)

/-- A mapping from keys to texts. -/
def textMapping (sort : MappingSort) (es : List (Text × Text)) : Value :=
  .mapping sort (es.map fun e => (e.1, .text e.2))

/-- The keys are different identifiers. -/
structure IsTextMapping (es : List (Text × Text)) : Prop where
  isIdentifier : ∀ e ∈ es, isIdentifier e.1
  nodup : (es.map (·.1)).Nodup

instance (es : List (Text × Text)) : Decidable (IsTextMapping es) :=
  decidable_of_iff ((∀ e ∈ es, Text.isIdentifier e.1) ∧ (es.map (·.1)).Nodup)
    ⟨fun ⟨hk, hd⟩ => ⟨hk, hd⟩, fun ⟨hk, hd⟩ => ⟨hk, hd⟩⟩

/-- What ends a text and begins an entry, up to the equals sign and the blank behind it. -/
def entryLead (key : Text) : Text := '\x22' :: ';' :: ' ' :: (key ++ [' ', '=', ' '])

/-- What stands between a text and the text of the entry that follows. -/
def entryBoundary (key : Text) : Text := entryLead key ++ ['\x22']

/-- A text and the texts of further entries, with what stands between them. -/
def joined (text : Text) : List (Text × Text) → Text
  | [] => text
  | (key, next) :: es => text ++ (entryBoundary key ++ joined next es)

variable {sort sort' : MappingSort} {es es' : List (Text × Text)} {k k' s s' t u : Text}

theorem IsTextMapping.isKey (h : IsTextMapping es) {e : Text × Text} (he : e ∈ es) :
    Text.IsKey e.1 :=
  Text.isKey_of_isIdentifier (h.isIdentifier e he)

/-! ### The literal -/

/-- Texts that follow each other could be one text. -/
theorem flatten_mappingEntry_cons (k s : Text) (es : List (Text × Text)) :
    (((k, s) :: es).map fun e => mappingEntry e.1 e.2).flatten = mappingEntry k (joined s es) := by
  induction es generalizing k s with
  | nil => simp [joined]
  | cons e es ih =>
    obtain ⟨k', s'⟩ := e
    rw [List.map_cons, List.flatten_cons, ih]
    simp [joined, mappingEntry, entryBoundary, entryLead]

/-- The literal of a mapping from keys to texts. -/
theorem formatMapping_textMapping (sort : MappingSort) (es : List (Text × Text)) :
    formatMapping (textMapping sort es) = .ok ('@' :: '\x7b' ::
      ((es.map fun e => mappingEntry e.1 e.2).flatten ++ [' ', '\x7d'])) := by
  have hentries : (es.map fun e => (e.1, Value.text e.2)).mapM
      (fun e => (entryForm? e.2).map (mappingEntry e.1)) =
        some (es.map fun e => mappingEntry e.1 e.2) := by
    rw [List.mapM_map]
    exact List.mapM_pure
  rw [textMapping, formatMapping, hentries]

/-- **Mappings with the same literal** begin with the same key, and their joined texts are the
same. -/
theorem formatMapping_eq_iff (hk : Text.IsKey k) (hk' : Text.IsKey k') :
    formatMapping (textMapping sort ((k, s) :: es)) =
      formatMapping (textMapping sort' ((k', s') :: es')) ↔
        k = k' ∧ joined s es = joined s' es' := by
  rw [formatMapping_textMapping, formatMapping_textMapping, flatten_mappingEntry_cons,
    flatten_mappingEntry_cons]
  constructor
  · intro h
    simp only [mappingEntry, Except.ok.injEq, List.cons_append, List.append_assoc,
      List.cons.injEq, true_and] at h
    obtain ⟨rfl, hrest⟩ := Text.append_cons_inj_of_notMem hk.blank_notMem hk'.blank_notMem h
    refine ⟨rfl, ?_⟩
    simpa using hrest
  · rintro ⟨rfl, h⟩
    rw [h]

/-- A mapping without entries has a literal of its own. -/
theorem formatMapping_cons_ne_nil (hk : Text.IsKey k) :
    formatMapping (textMapping sort ((k, s) :: es)) ≠ formatMapping (textMapping sort' []) := by
  obtain ⟨c, n, hcons, -⟩ := hk.exists_cons
  rw [formatMapping_textMapping, formatMapping_textMapping, flatten_mappingEntry_cons]
  intro h
  rw [hcons] at hk h
  simp only [mappingEntry, Except.ok.injEq, List.cons_append, List.map_nil, List.flatten_nil,
    List.nil_append, List.cons.injEq, true_and] at h
  exact hk.brace_notMem (h.1 ▸ List.mem_cons_self)

/-! ### Texts that hold no beginning of an entry -/

theorem quote_mem_entryLead_tail (hk : Text.IsKey k) :
    '\x22' ∉ ';' :: ' ' :: (k ++ [' ', '=', ' ']) := by
  simp [hk.quote_notMem]

/-- A quote before the end of what comes before an entry is the first sign of it. -/
theorem eq_nil_of_entryBoundary_append_eq (hk : Text.IsKey k) {y : Text}
    (hy : ¬ entryLead k <+: y) (h : entryBoundary k ++ t = y ++ '\x22' :: u) : y = [] := by
  rw [entryBoundary, List.append_assoc] at h
  rcases List.append_eq_append_iff.mp h with ⟨z, hz, -⟩ | ⟨z, hz, hquote⟩
  · exact absurd (hz ▸ List.prefix_append ..) hy
  · cases y with
    | nil => rfl
    | cons c y =>
      cases z with
      | nil => exact absurd (by rw [hz, List.append_nil]) hy
      | cons d z =>
        obtain ⟨rfl, -⟩ := List.cons.inj hquote
        have htail := (List.cons.inj hz).2
        exact absurd (htail ▸ by simp) (quote_mem_entryLead_tail hk)

/-- Two entries that begin at the same place have the same key. -/
theorem entryBoundary_append_inj (hk : Text.IsKey k) (hk' : Text.IsKey k')
    (h : entryBoundary k ++ t = entryBoundary k' ++ u) : k = k' ∧ t = u := by
  simp only [entryBoundary, entryLead, List.cons_append, List.append_assoc, List.cons.injEq,
    true_and] at h
  obtain ⟨rfl, hrest⟩ := Text.append_cons_inj_of_notMem hk.blank_notMem hk'.blank_notMem h
  exact ⟨rfl, by simpa using hrest⟩

/-- **Joined texts are told apart** when no text of one mapping holds what comes before an entry of
the other. -/
theorem eq_of_joined_eq (hes : ∀ e ∈ es, Text.IsKey e.1) (hes' : ∀ e ∈ es', Text.IsKey e.1)
    (hleft : ∀ e ∈ es', ∀ x ∈ s :: es.map (·.2), ¬ entryLead e.1 <:+: x)
    (hright : ∀ e ∈ es, ∀ x ∈ s' :: es'.map (·.2), ¬ entryLead e.1 <:+: x)
    (h : joined s es = joined s' es') : s = s' ∧ es = es' := by
  induction es generalizing s s' es' with
  | nil =>
    cases es' with
    | nil => exact ⟨h, rfl⟩
    | cons e' es' =>
      have hbegins : entryLead e'.1 <:+: s := ⟨s', '\x22' :: joined e'.2 es', by
        rw [joined] at h
        simp [h, joined, entryBoundary]⟩
      exact absurd hbegins (hleft e' List.mem_cons_self _ List.mem_cons_self)
  | cons e es ih =>
    cases es' with
    | nil =>
      have hbegins : entryLead e.1 <:+: s' := ⟨s, '\x22' :: joined e.2 es, by
        have h' : joined s (e :: es) = s' := h
        simp [← h', joined, entryBoundary]⟩
      exact absurd hbegins (hright e List.mem_cons_self _ List.mem_cons_self)
    | cons e' es' =>
      obtain ⟨key, next⟩ := e
      obtain ⟨key', next'⟩ := e'
      obtain ⟨hkey, hkeys⟩ := List.forall_mem_cons.mp hes
      obtain ⟨hkey', hkeys'⟩ := List.forall_mem_cons.mp hes'
      rw [joined, joined] at h
      -- the two texts end at the same place
      have htexts : s = s' ∧ entryBoundary key ++ joined next es =
          entryBoundary key' ++ joined next' es' := by
        rcases List.append_eq_append_iff.mp h with ⟨y, hy, hrest⟩ | ⟨y, hy, hrest⟩
        · have hnot : ¬ entryLead key <+: y := fun hp =>
            hright (key, next) List.mem_cons_self s' List.mem_cons_self
              (hy ▸ hp.isInfix.trans (List.suffix_append s y).isInfix)
          obtain rfl := eq_nil_of_entryBoundary_append_eq hkey hnot hrest
          exact ⟨by simpa using hy.symm, hrest⟩
        · have hnot : ¬ entryLead key' <+: y := fun hp =>
            hleft (key', next') List.mem_cons_self s List.mem_cons_self
              (hy ▸ hp.isInfix.trans (List.suffix_append s' y).isInfix)
          obtain rfl := eq_nil_of_entryBoundary_append_eq hkey' hnot hrest
          exact ⟨by simpa using hy, hrest.symm⟩
      obtain ⟨rfl, hrest⟩ := htexts
      obtain ⟨rfl, hnext⟩ := entryBoundary_append_inj hkey hkey' hrest
      obtain ⟨rfl, rfl⟩ := ih hkeys hkeys'
        (fun e he x hx => hleft e (List.mem_cons_of_mem _ he) x (List.mem_cons_of_mem _ hx))
        (fun e he x hx => hright e (List.mem_cons_of_mem _ he) x (List.mem_cons_of_mem _ hx))
        hnext
      exact ⟨rfl, rfl⟩

/-! ### When the literal tells the mapping -/

/-- Two entries of a mapping are also written by a single one. -/
theorem exists_ne_of_cons_cons (h : IsTextMapping ((k, s) :: (k', s') :: es)) (sort : MappingSort) :
    ∃ es', IsTextMapping es' ∧ formatMapping (textMapping sort ((k, s) :: (k', s') :: es)) =
      formatMapping (textMapping sort es') ∧ (k, s) :: (k', s') :: es ≠ es' := by
  have hk := h.isKey List.mem_cons_self
  refine ⟨[(k, joined s ((k', s') :: es))], ⟨?_, by simp⟩, ?_, by simp⟩
  · exact List.forall_mem_singleton.mpr (h.isIdentifier (k, s) List.mem_cons_self)
  · exact (formatMapping_eq_iff hk hk).mpr ⟨rfl, rfl⟩

/-- A text in which an entry seems to begin is also written by two entries. -/
theorem exists_ne_of_infix (hk : isIdentifier k) (hk' : isIdentifier k') (hne : k' ≠ k)
    (hbegins : entryBoundary k' <:+: s) (sort : MappingSort) :
    ∃ es', IsTextMapping es' ∧ formatMapping (textMapping sort [(k, s)]) =
      formatMapping (textMapping sort es') ∧ [(k, s)] ≠ es' := by
  obtain ⟨t, u, rfl⟩ := hbegins
  have hkey := Text.isKey_of_isIdentifier hk
  refine ⟨[(k, t), (k', u)], ⟨by simp [hk, hk'], by simp [hne.symm]⟩, ?_, by simp⟩
  exact (formatMapping_eq_iff hkey hkey).mpr ⟨rfl, by simp [joined]⟩

/-- A single text in which no entry seems to begin is told by its literal. -/
theorem eq_of_formatMapping_singleton_eq (h : IsTextMapping [(k, s)]) (h' : IsTextMapping es')
    (hs : ∀ k', isIdentifier k' → k' ≠ k → ¬ entryBoundary k' <:+: s)
    (heq : formatMapping (textMapping sort [(k, s)]) = formatMapping (textMapping sort' es')) :
    [(k, s)] = es' := by
  have hk := h.isKey List.mem_cons_self
  cases es' with
  | nil => exact absurd heq (formatMapping_cons_ne_nil hk)
  | cons e es' =>
    obtain ⟨k₁, s₁⟩ := e
    obtain ⟨rfl, hjoined⟩ := (formatMapping_eq_iff hk (h'.isKey List.mem_cons_self)).mp heq
    cases es' with
    | nil =>
      obtain rfl : s = s₁ := hjoined
      rfl
    | cons e₂ es' =>
      obtain ⟨k₂, s₂⟩ := e₂
      have hne : k₂ ≠ k := by
        have hnodup := h'.nodup
        simp only [List.map_cons, List.nodup_cons, List.mem_cons, not_or] at hnodup
        exact Ne.symm hnodup.1.1
      have hbegins : entryBoundary k₂ <:+: s := ⟨s₁, joined s₂ es', by
        have hs : s = joined s₁ ((k₂, s₂) :: es') := hjoined
        rw [hs, joined, List.append_assoc]⟩
      exact absurd hbegins (hs k₂ (h'.isIdentifier (k₂, s₂) (by simp)) hne)

/-- Two mappings with the same literal are the same, if no text of the one holds what comes before
an entry of the other. -/
theorem eq_of_formatMapping_eq (h : IsTextMapping es) (h' : IsTextMapping es')
    (hfree : ∀ e ∈ es, ∀ e' ∈ es', ¬ entryLead e'.1 <:+: e.2 ∧ ¬ entryLead e.1 <:+: e'.2)
    (heq : formatMapping (textMapping sort es) = formatMapping (textMapping sort' es')) :
    es = es' := by
  cases es with
  | nil =>
    cases es' with
    | nil => rfl
    | cons e' es' => exact absurd heq.symm (formatMapping_cons_ne_nil (h'.isKey List.mem_cons_self))
  | cons e es =>
    have hk := h.isKey List.mem_cons_self
    cases es' with
    | nil => exact absurd heq (formatMapping_cons_ne_nil hk)
    | cons e' es' =>
      obtain ⟨k, s⟩ := e
      obtain ⟨k', s'⟩ := e'
      obtain ⟨rfl, hjoined⟩ := (formatMapping_eq_iff hk (h'.isKey List.mem_cons_self)).mp heq
      have hleft : ∀ e' ∈ es', ∀ x ∈ s :: es.map (·.2), ¬ entryLead e'.1 <:+: x := by
        intro e' he' x hx
        obtain ⟨e, he, rfl⟩ := List.mem_map.mp (show x ∈ ((k, s) :: es).map (·.2) from hx)
        exact (hfree e he e' (List.mem_cons_of_mem _ he')).1
      have hright : ∀ e ∈ es, ∀ x ∈ s' :: es'.map (·.2), ¬ entryLead e.1 <:+: x := by
        intro e he x hx
        obtain ⟨e', he', rfl⟩ := List.mem_map.mp (show x ∈ ((k, s') :: es').map (·.2) from hx)
        exact (hfree e (List.mem_cons_of_mem _ he) e' he').2
      obtain ⟨rfl, rfl⟩ := eq_of_joined_eq (fun e he => h.isKey (List.mem_cons_of_mem _ he))
        (fun e he => h'.isKey (List.mem_cons_of_mem _ he)) hleft hright hjoined
      rfl

/-- **When a literal tells its mapping.** No other mapping from identifiers to texts has the same
literal exactly if there is at most one entry, in the text of which no entry under another key
seems to begin. Two mappings with the same literal are the same, however many entries they have, if
no text of the one holds what comes before an entry of the other. -/
theorem formatMapping_determines_iff (h : IsTextMapping es) :
    ((∀ sort sort' es', IsTextMapping es' →
      formatMapping (textMapping sort es) = formatMapping (textMapping sort' es') → es = es') ↔
        es = [] ∨ ∃ k s, es = [(k, s)] ∧
          ∀ k', isIdentifier k' → k' ≠ k → ¬ entryBoundary k' <:+: s) ∧
    ∀ sort sort' es', IsTextMapping es' →
      (∀ e ∈ es, ∀ e' ∈ es', ¬ entryLead e'.1 <:+: e.2 ∧ ¬ entryLead e.1 <:+: e'.2) →
      formatMapping (textMapping sort es) = formatMapping (textMapping sort' es') → es = es' := by
  refine ⟨⟨fun hdetermines => ?_, ?_⟩, fun _ _ _ h' => eq_of_formatMapping_eq h h'⟩
  · have hnone : ¬ ∃ es', IsTextMapping es' ∧ formatMapping (textMapping .plain es) =
        formatMapping (textMapping .plain es') ∧ es ≠ es' := fun ⟨es', h', heq, hne⟩ =>
      hne (hdetermines .plain .plain es' h' heq)
    match es, h, hnone with
    | [], _, _ => exact Or.inl rfl
    | [(k, s)], h, hnone =>
      refine Or.inr ⟨k, s, rfl, fun k' hk' hne hbegins => hnone ?_⟩
      exact exists_ne_of_infix (h.isIdentifier _ List.mem_cons_self) hk' hne hbegins .plain
    | (k, s) :: (k', s') :: es, h, hnone =>
      exact absurd (exists_ne_of_cons_cons h .plain) hnone
  · rintro (rfl | ⟨k, s, rfl, hs⟩) sort sort' es' h' heq
    · cases es' with
      | nil => rfl
      | cons e' es' =>
        exact absurd heq.symm (formatMapping_cons_ne_nil (h'.isKey List.mem_cons_self))
    · exact eq_of_formatMapping_singleton_eq h h' hs heq

/-- Quotes, a semicolon and an equals sign in a text do not make an entry. -/
theorem formatMapping_determines_iff_quotes :
    let es := [(['a'], "say \"no\";b = \"1\"".toList)]
    IsTextMapping es ∧ ∀ sort sort' es', IsTextMapping es' →
      formatMapping (textMapping sort es) = formatMapping (textMapping sort' es') → es = es' := by
  intro es
  have hes : IsTextMapping es := by decide
  refine ⟨hes, (formatMapping_determines_iff hes).1.mpr (Or.inr ⟨_, _, rfl, fun k' _ _ h => ?_⟩)⟩
  have hbegin : ['\x22', ';', ' '] <:+: entryBoundary k' :=
    ⟨[], k' ++ [' ', '=', ' ', '\x22'], by simp [entryBoundary, entryLead]⟩
  exact absurd (hbegin.trans h) (by decide)

/-- A text that ends and begins an entry makes one mapping pass for another. -/
theorem formatMapping_not_injective :
    let es := [(['a'], "x\"; b = \"y".toList)]
    let es' := [(['a'], ['x']), (['b'], ['y'])]
    IsTextMapping es ∧ IsTextMapping es' ∧
      formatMapping (textMapping .plain es) = .ok "@\x7b a = \"x\"; b = \"y\"; \x7d".toList ∧
      formatMapping (textMapping .plain es) = formatMapping (textMapping .plain es') ∧
      es ≠ es' := by
  decide

end ResourceScript.Literal

import Mathlib.Data.List.Induction
import Mathlib.Data.List.Nodup
import ResourceScript.Entries

/-!
# Keys and entries that were set

Setting pair after pair invents no entry, no key is held twice, and of several pairs with one key
the last one counts. So the entries are what is held under their keys.

## Main results

* `Entries.mem_of_mem_ofList`: each entry is one of the pairs.
* `Entries.nodup_keys_ofList`: the keys are distinct.
* `Entries.keys_ofList`: the keys stand in the order of their first pairs.
* `Entries.get?_ofList`: under a key stands the value of its last pair.
* `Entries.ofList_filter_ne`: erasing a key undoes all pairs with it.
* `Entries.ofList_map`: changing values and setting pairs may be exchanged.
* `Entries.mem_iff_get?_eq_some`: the entries are what is held under their keys.
-/

namespace ResourceScript.Entries

variable {α β : Type} {es : Entries α} {e : Text × α} {key : Text} {value : α}

theorem mem_of_mem_set (h : e ∈ es.set key value) : e ∈ es ∨ e = (key, value) := by
  induction es with
  | nil => exact Or.inr (List.mem_singleton.mp h)
  | cons d es ih =>
    obtain ⟨k, v⟩ := d
    by_cases hk : k = key
    · rw [set, if_pos hk, hk, List.mem_cons] at h
      exact h.symm.imp_left (List.mem_cons_of_mem _)
    · rw [set, if_neg hk, List.mem_cons] at h
      rcases h with rfl | h
      · exact Or.inl List.mem_cons_self
      · exact (ih h).imp_left (List.mem_cons_of_mem _)

theorem nodup_keys_set (h : es.keys.Nodup) (key : Text) (value : α) :
    (es.set key value).keys.Nodup := by
  rw [keys_set]
  split
  · exact h
  · next hk => exact List.nodup_append.mpr ⟨h, by simp, by rintro a ha b hb rfl; simp_all⟩

private theorem foldl_set_spec (pairs : List (Text × α)) (es : Entries α)
    (hes : es.keys.Nodup) :
    (∀ e ∈ pairs.foldl (fun es (k, v) => es.set k v) es, e ∈ es ∨ e ∈ pairs) ∧
      (keys (pairs.foldl (fun es (k, v) => es.set k v) es)).Nodup := by
  induction pairs generalizing es with
  | nil => exact ⟨fun e he => Or.inl he, hes⟩
  | cons p pairs ih =>
    obtain ⟨hmem, hnodup⟩ := ih (es.set p.1 p.2) (nodup_keys_set hes p.1 p.2)
    refine ⟨fun e he => ?_, hnodup⟩
    rcases hmem e he with he | he
    · rcases mem_of_mem_set he with he | rfl
      · exact Or.inl he
      · exact Or.inr List.mem_cons_self
    · exact Or.inr (List.mem_cons_of_mem p he)

theorem mem_of_mem_ofList {pairs : List (Text × α)} (h : e ∈ ofList pairs) : e ∈ pairs :=
  ((foldl_set_spec pairs [] List.nodup_nil).1 e h).resolve_left List.not_mem_nil

theorem nodup_keys_ofList (pairs : List (Text × α)) : (ofList pairs).keys.Nodup :=
  (foldl_set_spec pairs [] List.nodup_nil).2

theorem ofList_concat (pairs : List (Text × α)) (p : Text × α) :
    ofList (pairs ++ [p]) = (ofList pairs).set p.1 p.2 := by
  rw [ofList, List.foldl_append]
  rfl

/-- The first occurrences in a list to which a member was added. -/
theorem eraseDups_concat (l : List Text) (key : Text) :
    (l ++ [key]).eraseDups = if key ∈ l then l.eraseDups else l.eraseDups ++ [key] := by
  rw [List.eraseDups_append]
  by_cases h : key ∈ l
  · simp [List.removeAll, h]
  · simp [List.removeAll, List.eraseDups_cons, h]

theorem nodup_eraseDups (l : List Text) : l.eraseDups.Nodup := by
  induction l using List.reverseRecOn with
  | nil => exact List.nodup_nil
  | append_singleton l key ih =>
    rw [eraseDups_concat]
    split
    · exact ih
    · next hkey => exact List.nodup_append.mpr ⟨ih, by simp, by
        rintro a ha b hb rfl
        exact hkey (List.mem_singleton.mp hb ▸ List.mem_eraseDups.mp ha)⟩

/-- The keys stand in the order of their first pairs. -/
theorem keys_ofList (pairs : List (Text × α)) :
    (ofList pairs).keys = (pairs.map (·.1)).eraseDups := by
  induction pairs using List.reverseRecOn with
  | nil => rfl
  | append_singleton pairs p ih =>
    simp only [ofList_concat, keys_set, ih, List.map_append, List.map_singleton, eraseDups_concat,
      List.mem_eraseDups]

/-- Under a key stands the value of its last pair. -/
theorem get?_ofList (pairs : List (Text × α)) (key : Text) :
    (ofList pairs).get? key = (pairs.reverse.find? (·.1 = key)).map (·.2) := by
  induction pairs using List.reverseRecOn with
  | nil => rfl
  | append_singleton pairs p ih =>
    rw [ofList_concat, get?_set, ih, List.reverse_concat, List.find?_cons]
    by_cases hk : p.1 = key
    · simp [hk]
    · simp [hk, Ne.symm hk]

/-! ### Erasing -/

theorem erase_cons (k : Text) (v : α) (es : Entries α) (key : Text) :
    erase ((k, v) :: es) key = if k = key then erase es key else (k, v) :: erase es key := by
  by_cases hk : k = key
  · rw [erase, List.filter_cons_of_neg (by simp [hk]), if_pos hk]
    rfl
  · rw [erase, List.filter_cons_of_pos (by simp [hk]), if_neg hk]
    rfl

/-- Erasing a key changes the look-up of that key only. -/
theorem get?_erase (es : Entries α) (key other : Text) :
    (es.erase key).get? other = if other = key then none else es.get? other := by
  induction es with
  | nil => simp [erase, get?]
  | cons e es ih =>
    obtain ⟨k, v⟩ := e
    rw [erase_cons]
    by_cases hk : k = key
    · subst hk
      rw [if_pos rfl, ih]
      by_cases ho : other = k
      · rw [if_pos ho, if_pos ho]
      · simp [get?, ho, Ne.symm ho]
    · by_cases ho : k = other
      · subst ho
        simp [get?, hk]
      · simp [get?, hk, ih, ho]

/-- A key that is erased after it was set might as well not have been set, and erasing another key
does not matter to the setting. -/
theorem erase_set (es : Entries α) (key other : Text) (value : α) :
    (es.set other value).erase key =
      if other = key then es.erase key else (es.erase key).set other value := by
  induction es with
  | nil => by_cases h : other = key <;> simp [set, erase, h]
  | cons e es ih =>
    obtain ⟨k, v⟩ := e
    rw [set, erase_cons]
    by_cases hk : k = other
    · subst hk
      by_cases h : k = key <;> simp [set, erase_cons, h]
    · rw [if_neg hk, erase_cons, ih]
      by_cases hkey : k = key
      · simp [hkey]
      · by_cases h : other = key <;> simp [set, hk, hkey, h]

/-- Erasing a key undoes all pairs with it. -/
theorem ofList_filter_ne (pairs : List (Text × α)) (key : Text) :
    ofList (pairs.filter (·.1 ≠ key)) = (ofList pairs).erase key := by
  induction pairs using List.reverseRecOn with
  | nil => rfl
  | append_singleton pairs p ih =>
    rw [List.filter_append, ofList_concat, erase_set, ← ih]
    by_cases hp : p.1 = key
    · simp [hp]
    · simp [hp, ofList_concat]

/-! ### Changing values -/

theorem set_map (f : α → β) (es : Entries α) (key : Text) (value : α) :
    set (es.map fun e => (e.1, f e.2)) key (f value) =
      (es.set key value).map fun e => (e.1, f e.2) := by
  induction es with
  | nil => rfl
  | cons d es ih =>
    obtain ⟨k, v⟩ := d
    by_cases hk : k = key
    · simp [set, hk]
    · simp [set, hk, ih]

/-- Values may be changed before or after their pairs are set. -/
theorem ofList_map (f : α → β) (pairs : List (Text × α)) :
    ofList (pairs.map fun p => (p.1, f p.2)) = (ofList pairs).map fun e => (e.1, f e.2) := by
  induction pairs using List.reverseRecOn with
  | nil => rfl
  | append_singleton pairs p ih =>
    rw [List.map_append, List.map_singleton, ofList_concat, ofList_concat, ih, set_map]

/-! ### Look-up and order -/

/-- A key is held if something is held under it. -/
theorem get?_eq_none_iff : es.get? key = none ↔ key ∉ es.keys := by
  induction es with
  | nil => simp [get?, keys]
  | cons d es ih =>
    obtain ⟨k, v⟩ := d
    by_cases hk : k = key
    · simp [get?, keys, hk]
    · rw [get?, if_neg hk, ih]
      simp [keys, Ne.symm hk]

/-- The entries are what is held under their keys. -/
theorem mem_iff_get?_eq_some (h : es.keys.Nodup) :
    (key, value) ∈ es ↔ es.get? key = some value := by
  induction es with
  | nil => simp [get?]
  | cons d es ih =>
    obtain ⟨k, v⟩ := d
    obtain ⟨hnot, hes⟩ := List.nodup_cons.mp h
    rw [List.mem_cons, Prod.mk.injEq, ih hes, get?]
    by_cases hk : k = key
    · have hnone : get? es key ≠ some value := fun hget =>
        hnot (hk ▸ List.mem_map_of_mem (f := (·.1)) ((ih hes).mpr hget))
      simp only [hk, hnone, or_false, true_and, if_true, Option.some.injEq]
      exact eq_comm
    · simp [hk, Ne.symm hk]

end ResourceScript.Entries

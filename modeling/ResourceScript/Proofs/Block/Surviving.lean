import ResourceScript.Block.Basic
import ResourceScript.Proofs.Entries

/-!
# The values that survive

Of the named values that a block is written from, the last one under each key survives, unless it is
`null`. The surviving values stand in the strict dictionary order of their keys, so what is given
last under each key determines them, whatever order the keys are given in.

## Main definitions

* `Block.lastUnder?`: the last value that is given under a key.

## Main results

* `Block.mem_surviving_iff`: which values survive.
* `Block.pairwise_surviving`: the surviving values are sorted by distinct keys.
* `Block.surviving_eq_of_lastUnder?_eq`: what is given last under each key determines them.
* `Block.surviving_eq_of_perm`: the entries that are not `null` are sorted.
* `Block.surviving_map`, `Block.printed_map`, `Block.commentsOf_map`: values may be changed before
  or after they are sorted, as long as none becomes or ceases to be `null`.
-/

namespace ResourceScript.Block

variable {values values' : List (Text × NamedValue)} {key : Text} {nv : NamedValue}
  {settings : Settings} {g : NamedValue → NamedValue}

/-- The last value that is given under a key. -/
def lastUnder? (values : List (Text × NamedValue)) (key : Text) : Option NamedValue :=
  (values.reverse.find? (·.1 = key)).map (·.2)

/-- The surviving values are the last ones under their keys, `null` left out. -/
theorem mem_surviving_iff : (key, nv) ∈ surviving values ↔
    lastUnder? values key = some nv ∧ nv.value.isNull = false := by
  rw [surviving, List.mem_filter, List.mem_mergeSort,
    Entries.mem_iff_get?_eq_some (Entries.nodup_keys_ofList values), Entries.get?_ofList,
    lastUnder?]
  simp

theorem mem_printed_iff_exists : nv ∈ printed settings values ↔ ∃ key,
    lastUnder? values key = some nv ∧ nv.value.isNull = false ∧ ¬ isMetadata settings key := by
  simp [printed, mem_surviving_iff, and_assoc]

/-! ### Their order -/

private theorem pairwise_le_mergeSort (es : Entries NamedValue) :
    (es.mergeSort fun a b => Text.le a.1 b.1).Pairwise fun a b => Text.le a.1 b.1 := by
  have htrans : ∀ a b c : Text × NamedValue, Text.le a.1 b.1 → Text.le b.1 c.1 → Text.le a.1 c.1 :=
    fun _ _ _ => Text.le_trans
  have htotal : ∀ a b : Text × NamedValue, Text.le a.1 b.1 || Text.le b.1 a.1 :=
    fun a b => Text.le_total a.1 b.1
  exact List.pairwise_mergeSort htrans htotal es

/-- The surviving values stand in the strict order of their keys. -/
theorem pairwise_surviving (values : List (Text × NamedValue)) :
    (surviving values).Pairwise fun a b => Text.le a.1 b.1 ∧ a.1 ≠ b.1 := by
  have hkeys : (Entries.ofList values).Pairwise (·.1 ≠ ·.1) :=
    List.pairwise_map.mp (Entries.nodup_keys_ofList values)
  have hdistinct := ((List.mergeSort_perm (Entries.ofList values)
    fun a b => Text.le a.1 b.1).pairwise_iff Ne.symm).mpr hkeys
  exact ((pairwise_le_mergeSort _).and hdistinct).filter _

/-- Values in the strict order of their keys are told apart by which values they are. -/
theorem eq_of_pairwise_of_mem_iff
    (h : values.Pairwise fun a b => Text.le a.1 b.1 ∧ a.1 ≠ b.1)
    (h' : values'.Pairwise fun a b => Text.le a.1 b.1 ∧ a.1 ≠ b.1)
    (hmem : ∀ key nv, (key, nv) ∈ values ↔ (key, nv) ∈ values') : values = values' := by
  have hnodup {l : List (Text × NamedValue)}
      (hl : l.Pairwise fun a b => Text.le a.1 b.1 ∧ a.1 ≠ b.1) : l.Nodup :=
    hl.imp fun hab heq => hab.2 (congrArg Prod.fst heq)
  refine List.Perm.eq_of_pairwise (fun a b _ _ hab hba => ?_) h h' ?_
  · exact absurd (Text.le_antisymm hab.1 hba.1) hab.2
  · exact (List.perm_ext_iff_of_nodup (hnodup h) (hnodup h')).mpr fun ⟨key, nv⟩ => hmem key nv

/-- What is given last under each key determines the surviving values. -/
theorem surviving_eq_of_lastUnder?_eq
    (h : ∀ key, lastUnder? values key = lastUnder? values' key) :
    surviving values = surviving values' := by
  refine eq_of_pairwise_of_mem_iff (pairwise_surviving values) (pairwise_surviving values') ?_
  intro key nv
  rw [mem_surviving_iff, mem_surviving_iff, h]

/-- The surviving values are the entries that are not `null` in the strict order of their keys. -/
theorem surviving_eq_of_perm
    (hperm : ((Entries.ofList values).filter (!·.2.value.isNull)).Perm values')
    (hsorted : values'.Pairwise fun a b => Text.le a.1 b.1 ∧ a.1 ≠ b.1) :
    surviving values = values' := by
  refine eq_of_pairwise_of_mem_iff (pairwise_surviving values) hsorted fun key nv => ?_
  rw [← hperm.mem_iff, surviving, List.mem_filter, List.mem_filter, List.mem_mergeSort]

/-! ### Changed values -/

section Map

variable (hnull : ∀ nv, (g nv).value.isNull = nv.value.isNull)

include hnull

/-- Values may be changed before or after they are sorted, if none becomes or ceases to be
`null`. -/
theorem surviving_map (values : List (Text × NamedValue)) :
    surviving (values.map fun e => (e.1, g e.2)) =
      (surviving values).map fun e => (e.1, g e.2) := by
  rw [surviving, surviving, Entries.ofList_map,
    ← List.map_mergeSort (r := fun a b => Text.le a.1 b.1) fun _ _ _ _ => rfl, List.filter_map]
  simp only [Function.comp_def, hnull]

theorem printed_map (settings : Settings) (values : List (Text × NamedValue)) :
    printed settings (values.map fun e => (e.1, g e.2)) = (printed settings values).map g := by
  rw [printed, printed, surviving_map hnull, List.filter_map, List.map_map, List.map_map]
  rfl

/-- Values that are changed have the same comments, if no comment is changed. -/
theorem commentsOf_map {ctx : Context} (hmetadata : ∀ key nv, (key, nv) ∈ surviving values →
    isMetadata ctx.settings key → g nv = nv) :
    commentsOf ctx (values.map fun e => (e.1, g e.2)) = commentsOf ctx values := by
  have hkept : ((surviving values).map fun e => (e.1, g e.2)).filter
      (isMetadata ctx.settings ·.1) = (surviving values).filter (isMetadata ctx.settings ·.1) := by
    rw [List.filter_map]
    refine (List.map_congr_left fun ⟨key, nv⟩ he => ?_).trans (List.map_id _)
    obtain ⟨hsurviving, hkey⟩ := List.mem_filter.mp he
    exact Prod.ext rfl (hmetadata key nv hsurviving hkey)
  rw [commentsOf, commentsOf, surviving_map hnull, hkept]

end Map

end ResourceScript.Block

import Mathlib.Data.List.Infix
import ResourceScript.Text.Basic

/-!
# Searching a text that is put together

A text is searched part by part. An occurrence cannot reach over a character that the searched text
does not hold, so such a character cuts the search in two: the part before it is searched on its
own, and the search goes on behind it only if nothing was found.

## Main results

* `Text.prefix_append_cons_iff`, `Text.suffix_append_cons_iff`, `Text.infix_append_cons_iff`: what
  begins, ends or occurs in a text around a foreign character.
* `Text.find?_append_cons`: the search through a foreign character.
* `Text.find?_append_of_notMem`: the search through a part without the first searched character.
* `Text.find?_append_self`: the search for a text behind a part without it.
* `Text.find?_eq_none_iff`: a search fails exactly on the texts without an occurrence.
-/

namespace ResourceScript.Text

variable {p s t : Text} {c z : Char}

/-- A text without `z` that begins `s ++ z :: t` already begins `s`. -/
theorem prefix_append_cons_iff (hz : z ∉ p) : p <+: s ++ z :: t ↔ p <+: s := by
  refine ⟨fun h => ?_, fun h => h.trans (List.prefix_append ..)⟩
  rcases List.prefix_or_prefix_of_prefix h (List.prefix_append s (z :: t)) with h' | ⟨r, rfl⟩
  · exact h'
  · rw [List.prefix_append_right_inj] at h
    cases r with
    | nil => simp
    | cons d r =>
      obtain ⟨rfl, -⟩ := List.cons_prefix_cons.mp h
      exact absurd (List.mem_append_right s List.mem_cons_self) hz

/-- A text without `z` that ends `s ++ z :: t` already ends `t`. -/
theorem suffix_append_cons_iff (hz : z ∉ p) : p <:+ s ++ z :: t ↔ p <:+ t := by
  have hrev : p.reverse <+: t.reverse ++ z :: s.reverse ↔ p.reverse <+: t.reverse :=
    prefix_append_cons_iff (by simpa using hz)
  rw [← @List.reverse_prefix _ p t, ← hrev, ← List.reverse_prefix]
  simp

/-- A text without `z` occurs in `s ++ z :: t` exactly if it occurs before or behind that
character. -/
theorem infix_append_cons_iff (hp : p ≠ []) (hz : z ∉ p) :
    p <:+: s ++ z :: t ↔ p <:+: s ∨ p <:+: t := by
  induction s with
  | nil =>
    have hnot : ¬ p <+: z :: t := fun h =>
      hp (by simpa using (prefix_append_cons_iff (s := []) hz).mp h)
    simp [List.infix_cons_iff, hnot, hp]
  | cons c s ih =>
    rw [List.cons_append, List.infix_cons_iff, List.infix_cons_iff, ih, or_assoc,
      ← List.cons_append, prefix_append_cons_iff hz]

/-! ### Step lemmas -/

theorem find?_cons_zero (h : p <+: c :: s) : find? p (c :: s) = some 0 := by
  simp [find?, h]

theorem find?_cons_succ (h : ¬ p <+: c :: s) :
    find? p (c :: s) = (find? p s).map (· + 1) := by
  simp [find?, h]

theorem find?_nil_of_ne_nil (hp : p ≠ []) : find? p [] = none := by
  simp [find?, hp]

theorem find?_self_append (hp : p ≠ []) : find? p (p ++ t) = some 0 := by
  cases p with
  | nil => exact absurd rfl hp
  | cons d p => exact find?_cons_zero (List.prefix_append ..)

/-! ### Searching part by part -/

/-- **Searching through a foreign character.** The part before a character that the searched text
does not hold is searched on its own. -/
theorem find?_append_cons (hp : p ≠ []) (hz : z ∉ p) :
    find? p (s ++ z :: t) = (find? p s).or ((find? p (z :: t)).map (· + s.length)) := by
  induction s with
  | nil => simp [find?_nil_of_ne_nil hp]
  | cons c s ih =>
    by_cases h : p <+: c :: s
    · have h' : p <+: c :: (s ++ z :: t) := h.trans (List.prefix_append (c :: s) (z :: t))
      rw [List.cons_append, find?_cons_zero h', find?_cons_zero h, Option.some_or]
    · have h' : ¬ p <+: c :: (s ++ z :: t) :=
        fun hc => h ((prefix_append_cons_iff (s := c :: s) hz).mp hc)
      rw [List.cons_append, find?_cons_succ h', find?_cons_succ h, ih]
      cases find? p s with
      | none => cases find? p (z :: t) <;> simp; omega
      | some n => simp

/-- A part without the first character of the searched text is passed over. -/
theorem find?_append_of_notMem (hc : c ∉ s) :
    find? (c :: p) (s ++ t) = (find? (c :: p) t).map (· + s.length) := by
  induction s with
  | nil => simp
  | cons d s ih =>
    obtain ⟨hd, hs⟩ : c ≠ d ∧ c ∉ s := by simpa [not_or] using hc
    have h : ¬ c :: p <+: d :: (s ++ t) := fun h => hd (List.cons_prefix_cons.mp h).1
    rw [List.cons_append, find?_cons_succ h, ih hs]
    cases find? (c :: p) t <;> simp; omega

/-- A search fails exactly on the texts in which the searched text does not occur. -/
theorem find?_eq_none_iff (hp : p ≠ []) : find? p s = none ↔ ¬ p <:+: s := by
  induction s with
  | nil => simp [find?_nil_of_ne_nil hp, hp]
  | cons c s ih =>
    by_cases h : p <+: c :: s
    · simp [find?_cons_zero h, List.infix_cons_iff, h]
    · simp [find?_cons_succ h, List.infix_cons_iff, h, ih]

/-- A text that begins with `c` and holds no other `c` is found behind a part in which it does not
occur. -/
theorem find?_append_self (hc : c ∉ p) (h : ¬ c :: p <:+: s) :
    find? (c :: p) (s ++ (c :: p ++ t)) = some s.length := by
  induction s with
  | nil => exact find?_self_append (List.cons_ne_nil c p)
  | cons d s ih =>
    rw [List.infix_cons_iff, not_or] at h
    have hnot : ¬ c :: p <+: d :: (s ++ (c :: p ++ t)) := fun hp => by
      rcases List.prefix_or_prefix_of_prefix hp (List.prefix_append (d :: s) _) with hp' | ⟨r, hr⟩
      · exact h.1 hp'
      · -- what reaches over the end of the part begins with a second `c`
        rw [← hr, ← List.cons_append, List.prefix_append_right_inj] at hp
        obtain ⟨rfl, hs⟩ := List.cons.inj hr
        cases r with
        | nil => exact h.1 ⟨[], by simpa using hs.symm⟩
        | cons e r =>
          obtain ⟨rfl, -⟩ := List.cons_prefix_cons.mp hp
          exact hc (hs ▸ List.mem_append_right s List.mem_cons_self)
    rw [List.cons_append, find?_cons_succ hnot, ih h.2]
    rfl

/-- A text is not found behind one of its occurrences. -/
theorem exists_find?_append_le (hp : p ≠ []) (s t : Text) :
    ∃ n ≤ s.length, find? p (s ++ (p ++ t)) = some n := by
  induction s with
  | nil => exact ⟨0, Nat.le_refl 0, find?_self_append hp⟩
  | cons c s ih =>
    by_cases h : p <+: c :: (s ++ (p ++ t))
    · exact ⟨0, Nat.zero_le _, find?_cons_zero h⟩
    · obtain ⟨n, hn, hfind⟩ := ih
      refine ⟨n + 1, Nat.succ_le_succ hn, ?_⟩
      rw [List.cons_append, find?_cons_succ h, hfind, Option.map_some]

/-- What is found lies inside of the text that is searched. -/
theorem find?_add_length_le (hp : p ≠ []) {n : Nat} (h : find? p s = some n) :
    n + p.length ≤ s.length := by
  have hlen : p.length ≤ s.length - n := by
    have hpre : p <+: s.drop n := List.isPrefixOf_iff_prefix.mp (isPrefixOf_drop_find? h)
    simpa using hpre.length_le
  have hpos : 0 < p.length := List.length_pos_iff.mpr hp
  omega

/-- A text is cut where the searched text is found. -/
theorem exists_append_of_find? (hp : p ≠ []) {n : Nat} (h : find? p s = some n) :
    ∃ u t, s = u ++ (p ++ t) ∧ u.length = n := by
  obtain ⟨t, ht⟩ := List.isPrefixOf_iff_prefix.mp (isPrefixOf_drop_find? h)
  have := find?_add_length_le hp h
  exact ⟨s.take n, t, by rw [ht, List.take_append_drop], by rw [List.length_take]; omega⟩

/-- The searched text begins where it is found. -/
theorem getElem?_of_findFrom? {n i : Nat} (h : findFrom? (c :: p) s n = some i) :
    n ≤ i ∧ s[i]? = some c := by
  obtain ⟨m, hm, rfl⟩ := Option.map_eq_some_iff.mp h
  obtain ⟨t, ht⟩ := List.isPrefixOf_iff_prefix.mp (isPrefixOf_drop_find? hm)
  rw [List.drop_drop, Nat.add_comm n m] at ht
  have hget := congrArg (·[0]?) ht
  simp only [List.cons_append, List.getElem?_cons_zero, List.getElem?_drop, Nat.add_zero] at hget
  exact ⟨Nat.le_add_left n m, hget.symm⟩

/-- A text is cut at a position that holds a given character. -/
theorem exists_append_of_getElem? {n : Nat} (h : s[n]? = some c) :
    ∃ u t, s = u ++ c :: t ∧ u.length = n := by
  obtain ⟨hlt, rfl⟩ := List.getElem?_eq_some_iff.mp h
  refine ⟨s.take n, s.drop (n + 1), ?_, List.length_take_of_le hlt.le⟩
  rw [← List.drop_eq_getElem_cons hlt, List.take_append_drop]

/-- A character is not found behind one of its places. -/
theorem exists_findFrom?_le {n i : Nat} (hle : n ≤ i) (hget : s[i]? = some c) :
    ∃ j ≤ i, findFrom? [c] s n = some j := by
  obtain ⟨u, t, hcut, hlength⟩ : ∃ u t, s.drop n = u ++ c :: t ∧ u.length = i - n :=
    exists_append_of_getElem? (by rw [List.getElem?_drop, Nat.add_sub_of_le hle, hget])
  obtain ⟨m, hm, hfind⟩ := exists_find?_append_le (List.cons_ne_nil c []) u t
  rw [List.singleton_append, ← hcut] at hfind
  exact ⟨m + n, by omega, by rw [findFrom?, hfind, Option.map_some]⟩

/-- What is found in a part is found in the whole text. -/
theorem find?_append_of_eq_some (hp : p ≠ []) {n : Nat} (h : find? p s = some n) :
    find? p (s ++ t) = some n := by
  induction s generalizing n with
  | nil => rw [find?_nil_of_ne_nil hp] at h; exact absurd h (by simp)
  | cons c s ih =>
    by_cases hc : p <+: c :: s
    · have hc' : p <+: c :: (s ++ t) := hc.trans (List.prefix_append (c :: s) t)
      rw [find?_cons_zero hc] at h
      rw [List.cons_append, find?_cons_zero hc', h]
    · rw [find?_cons_succ hc] at h
      obtain ⟨m, hm, rfl⟩ := Option.map_eq_some_iff.mp h
      have hc' : ¬ p <+: c :: (s ++ t) := fun hpre => by
        have hlen := find?_add_length_le hp hm
        refine hc (List.prefix_of_prefix_length_le hpre (List.prefix_append (c :: s) t) ?_)
        rw [List.length_cons]
        omega
      rw [List.cons_append, find?_cons_succ hc', ih hm, Option.map_some]

/-! ### Texts that end like the searched one -/

/-- A text that ends in `z` and holds no other `z` begins `s ++ z :: t` where it begins the part up
to that character. -/
theorem concat_prefix_append_cons_iff (hz : z ∉ p) :
    p ++ [z] <+: s ++ z :: t ↔ p ++ [z] <+: s ++ [z] := by
  have hpart : s ++ [z] <+: s ++ z :: t := by simp
  refine ⟨fun h => ?_, fun h => h.trans hpart⟩
  rcases Nat.lt_or_ge p.length (s ++ [z]).length with hlt | hge
  · refine List.prefix_of_prefix_length_le h hpart ?_
    simp only [List.length_append, List.length_singleton] at hlt ⊢
    exact hlt
  · have hmem : s ++ [z] <+: p :=
      List.prefix_of_prefix_length_le hpart ((List.prefix_append p [z]).trans h) hge
    exact absurd (hmem.subset (by simp)) hz

/-- **Searching through the last character.** Where the searched text ends in `z` and holds no other
`z`, the part of a text up to such a character is searched on its own. -/
theorem find?_concat_append_cons (hp : p ≠ []) (hz : z ∉ p) :
    find? (p ++ [z]) (s ++ z :: t) = (find? (p ++ [z]) (s ++ [z])).or
      ((find? (p ++ [z]) t).map (· + (s.length + 1))) := by
  induction s with
  | nil =>
    obtain ⟨d, p, rfl⟩ := List.exists_cons_of_ne_nil hp
    have hd (u : Text) : ¬ d :: p ++ [z] <+: z :: u := fun h =>
      hz ((List.cons_prefix_cons.mp h).1 ▸ List.mem_cons_self)
    rw [List.nil_append, List.nil_append, find?_cons_succ (hd t), find?_cons_succ (hd []),
      find?_nil_of_ne_nil (by simp)]
    rfl
  | cons c s ih =>
    have hiff : p ++ [z] <+: c :: (s ++ z :: t) ↔ p ++ [z] <+: c :: (s ++ [z]) :=
      concat_prefix_append_cons_iff (s := c :: s) hz
    by_cases h : p ++ [z] <+: c :: (s ++ [z])
    · rw [List.cons_append, List.cons_append, find?_cons_zero (hiff.mpr h), find?_cons_zero h,
        Option.some_or]
    · rw [List.cons_append, List.cons_append, find?_cons_succ (mt hiff.mp h), find?_cons_succ h, ih]
      cases find? (p ++ [z]) (s ++ [z]) with
      | none => cases find? (p ++ [z]) t <;> simp; omega
      | some n => simp

end ResourceScript.Text

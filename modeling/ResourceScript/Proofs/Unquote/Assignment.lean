import ResourceScript.Proofs.Text.Escape
import ResourceScript.Proofs.Text.Name
import ResourceScript.Unquote.Assignment

/-!
# The first assignment of a name

A name is assigned where it begins a word, a blank follows it, and an equals sign comes before any
double quote. The search walks over the occurrences of the name and the blank that do not overlap,
but it misses no assignment: an occurrence that overlaps a rejected one sees the same double quote
before the same equals sign. So the search finds the first assignment, and where that is can be
told part by part.

## Main definitions

* `Unquote.BeginsAssignment`: a text that begins with an assignment.
* `Unquote.assignedRest?`: a text from its first assignment on.

## Main results

* `Unquote.findAssignment?_eq`: the search finds the first assignment.
* `Unquote.isSome_assignedRest?_iff`, `Unquote.beginsAssignment_iff`: what an assignment is.
* `Unquote.assignedRest?_append_quote`, `Unquote.assignedRest?_append_cons`: the first assignment of
  a text that a double quote follows, or in which an equals sign follows before any double quote.
* `Unquote.assignedRest?_escape`: escaping neither hides nor makes an assignment.
-/

namespace ResourceScript.Unquote

open Text (IsName escape isBlank)

/-! ### Which sign comes first -/

section Ahead

variable {s t u v : Text} {c : Char}

private theorem find?_singleton_self (c : Char) (s : Text) :
    Text.find? [c] (c :: s) = some 0 :=
  Text.find?_cons_zero (by simp)

private theorem find?_singleton_cons_of_ne {d : Char} (h : c ≠ d) (s : Text) :
    Text.find? [c] (d :: s) = (Text.find? [c] s).map (· + 1) :=
  Text.find?_cons_succ fun hp => h (List.cons_prefix_cons.mp hp).1

theorem ahead_nil : ahead [] = .noEquals := rfl

theorem ahead_equals_cons (s : Text) : ahead ('=' :: s) = .equals := by
  rw [ahead, find?_singleton_self, find?_singleton_cons_of_ne (by decide)]
  cases Text.find? ['\x22'] s <;> rfl

theorem ahead_quote_cons_ne (s : Text) : ahead ('\x22' :: s) ≠ .equals := by
  rw [ahead, find?_singleton_self, find?_singleton_cons_of_ne (by decide)]
  cases Text.find? ['='] s <;> simp

theorem ahead_cons_of_ne (he : c ≠ '=') (hq : c ≠ '\x22') (s : Text) :
    ahead (c :: s) = ahead s := by
  rw [ahead, ahead, find?_singleton_cons_of_ne he.symm, find?_singleton_cons_of_ne hq.symm]
  cases Text.find? ['='] s <;> cases Text.find? ['\x22'] s <;> simp

/-- The equals sign comes first when no double quote stands before it. -/
theorem ahead_eq_equals_iff : ahead s = .equals ↔ ∃ u v, s = u ++ '=' :: v ∧ '\x22' ∉ u := by
  induction s with
  | nil => simp [ahead_nil]
  | cons c s ih =>
    by_cases he : c = '='
    · subst he
      exact iff_of_true (ahead_equals_cons s) ⟨[], s, rfl, List.not_mem_nil⟩
    · by_cases hq : c = '\x22'
      · subst hq
        simp only [ahead_quote_cons_ne, false_iff]
        rintro ⟨u, v, huv, hu⟩
        cases u with
        | nil => exact he (List.cons.inj huv).1
        | cons d u => exact hu ((List.cons.inj huv).1 ▸ List.mem_cons_self)
      · rw [ahead_cons_of_ne he hq, ih]
        constructor
        · rintro ⟨u, v, rfl, hu⟩
          exact ⟨c :: u, v, rfl, by simp [Ne.symm hq, hu]⟩
        · rintro ⟨u, v, huv, hu⟩
          cases u with
          | nil => exact absurd (List.cons.inj huv).1 he
          | cons d u =>
            exact ⟨u, v, (List.cons.inj huv).2, fun h => hu (List.mem_cons_of_mem _ h)⟩

theorem ahead_eq_noEquals_iff : ahead s = .noEquals ↔ '=' ∉ s := by
  have hfind : Text.find? ['='] s = none ↔ '=' ∉ s := by
    rw [Text.find?_eq_none_iff (by simp), List.singleton_infix_iff]
  rw [← hfind, ahead]
  cases Text.find? ['='] s with
  | none => simp
  | some e =>
    cases Text.find? ['\x22'] s with
    | none => simp
    | some q => by_cases h : e < q <;> simp [h]

theorem ahead_append_iff :
    ahead (s ++ t) = .equals ↔ ahead s = .equals ∨ ('\x22' ∉ s ∧ ahead t = .equals) := by
  induction s with
  | nil => simp [ahead_nil]
  | cons c s ih =>
    by_cases he : c = '='
    · subst he
      simp [ahead_equals_cons]
    · by_cases hq : c = '\x22'
      · subst hq
        simp [ahead_quote_cons_ne]
      · rw [List.cons_append, ahead_cons_of_ne he hq, ahead_cons_of_ne he hq, ih]
        simp [Ne.symm hq]

/-- A text without double quotes before an equals sign. -/
theorem ahead_append_equals (h : '\x22' ∉ s) (t : Text) : ahead (s ++ '=' :: t) = .equals :=
  ahead_eq_equals_iff.mpr ⟨s, t, rfl, h⟩

theorem ahead_escape {allowVariables : Bool} :
    ahead (escape allowVariables s) = .equals ↔ ahead s = .equals := by
  induction s with
  | nil => rw [Text.escape_nil]
  | cons c s ih =>
    by_cases he : c = '='
    · subst he
      have hc : Text.isSpecial allowVariables '=' = false := by cases allowVariables <;> decide
      simp [Text.escape_cons_of_not_isSpecial hc, ahead_equals_cons]
    · have hlead (t : Text) : ahead (Text.escapeLead :: t) = ahead t :=
        ahead_cons_of_ne (by decide) (by decide) t
      have hstep (t : Text) : (ahead (c :: t) = .equals ↔ c ≠ '\x22' ∧ ahead t = .equals) := by
        by_cases hq : c = '\x22'
        · subst hq
          simp [ahead_quote_cons_ne]
        · simp [ahead_cons_of_ne he hq, hq]
      cases hc : Text.isSpecial allowVariables c with
      | true => rw [Text.escape_cons_of_isSpecial hc, hlead, hstep, hstep, ih]
      | false => rw [Text.escape_cons_of_not_isSpecial hc, hstep, hstep, ih]

end Ahead

/-! ### The search -/

/-- The name and a blank begin the text, and an equals sign comes before any double quote. -/
def BeginsAssignment (name s : Text) : Prop := name ++ [' '] <+: s ∧ ahead s = .equals

instance (name s : Text) : Decidable (BeginsAssignment name s) :=
  inferInstanceAs (Decidable (_ ∧ _))

/-- A text from its first assignment of a name on; `start` tells whether a word may begin at the
beginning of the text. -/
def assignedRest? (name : Text) : (start : Bool) → Text → Option Text
  | _, [] => none
  | start, c :: s =>
    if start = true ∧ BeginsAssignment name (c :: s) then some (c :: s)
    else assignedRest? name (isBlank c) s

variable {name s t u v : Text} {c d : Char} {start : Bool}

theorem assignedRest?_cons_of_not (h : ¬ BeginsAssignment name (c :: s)) :
    assignedRest? name start (c :: s) = assignedRest? name (isBlank c) s := by
  simp [assignedRest?, h]

theorem assignedRest?_of_beginsAssignment (h : BeginsAssignment name s) :
    assignedRest? name true s = some s := by
  cases s with
  | nil => simpa using h.1
  | cons c s => simp [assignedRest?, h]

/-- The rest from an assignment on is the whole text, or it stands behind a blank. -/
theorem eq_or_exists_of_assignedRest? {r : Text} (h : assignedRest? name start s = some r) :
    r = s ∨ ∃ u b, s = u ++ b :: r ∧ isBlank b := by
  suffices h' : (start = true ∧ r = s) ∨ ∃ u b, s = u ++ b :: r ∧ isBlank b from
    h'.imp_left And.right
  induction s generalizing start with
  | nil => simp [assignedRest?] at h
  | cons c s ih =>
    simp only [assignedRest?] at h
    split at h
    · next hb => exact Or.inl ⟨hb.1, (Option.some.inj h).symm⟩
    · rcases ih h with ⟨hc, rfl⟩ | ⟨u, b, rfl, hb⟩
      · exact Or.inr ⟨[], c, rfl, hc⟩
      · exact Or.inr ⟨c :: u, b, rfl, hb⟩

/-- The rest from an assignment on ends the text. -/
theorem suffix_of_assignedRest? {r : Text} (h : assignedRest? name start s = some r) : r <:+ s := by
  rcases eq_or_exists_of_assignedRest? h with rfl | ⟨u, b, rfl, -⟩
  · exact List.suffix_refl r
  · exact (List.suffix_cons b r).trans (List.suffix_append u (b :: r))

theorem beginsAssignment_of_assignedRest? {r : Text} (h : assignedRest? name start s = some r) :
    BeginsAssignment name r := by
  induction s generalizing start with
  | nil => simp [assignedRest?] at h
  | cons c s ih =>
    simp only [assignedRest?] at h
    split at h
    · next hb => exact Option.some.inj h ▸ hb.2
    · exact ih h

theorem assignedRest?_eq_none_of_notMem (h : '=' ∉ s) : assignedRest? name start s = none := by
  induction s generalizing start with
  | nil => rfl
  | cons c s ih =>
    have hnot : ¬ BeginsAssignment name (c :: s) := fun hb => by
      rw [BeginsAssignment, ahead_eq_noEquals_iff.mpr h] at hb
      exact Ahead.noConfusion hb.2
    rw [assignedRest?_cons_of_not hnot]
    exact ih fun hm => h (List.mem_cons_of_mem c hm)

/-- An occurrence that overlaps a rejected one is rejected too: it sees the same double quote before
the same equals sign. -/
theorem not_beginsAssignment_of_overlap {x u v : Text} (hx : name ++ [' '] <+: x)
    (hq : ahead x ≠ .equals) (huv : x = u ++ v) (hu : u.length ≤ name.length) :
    ¬ BeginsAssignment name v := by
  rintro ⟨hv, hav⟩
  obtain ⟨y, z, rfl, hy⟩ := ahead_eq_equals_iff.mp hav
  have hnx : name <+: x := (List.prefix_append ..).trans hx
  have hnv : name <+: y ++ '=' :: z := (List.prefix_append ..).trans hv
  apply hq
  by_cases hlt : y.length < name.length
  · -- the equals sign lies inside of the name
    have hyn : y ++ ['='] <+: name :=
      List.prefix_of_prefix_length_le ⟨z, by simp⟩ hnv (by simpa using Nat.succ_le_of_lt hlt)
    obtain ⟨w, hw⟩ := hyn.trans hnx
    rw [← hw, List.append_assoc]
    exact ahead_append_equals hy _
  · have hny : name <+: y :=
      List.prefix_of_prefix_length_le hnv (List.prefix_append ..) (Nat.le_of_not_lt hlt)
    have hun : u <+: name := List.prefix_of_prefix_length_le ⟨_, huv.symm⟩ hnx hu
    rw [huv, ← List.append_assoc]
    refine ahead_append_equals (fun hm => ?_) z
    rcases List.mem_append.mp hm with hm | hm
    · exact hy (hny.subset (hun.subset hm))
    · exact hy hm

private theorem findAssignmentFrom?_eq (skip pos : Nat)
    (hskip : ∀ u v, s = u ++ v → u.length < skip → ¬ BeginsAssignment name v) :
    findAssignmentFrom? name start skip pos s =
      (assignedRest? name start s).map fun r => pos + (s.length - r.length) := by
  induction s generalizing start skip pos with
  | nil => cases skip <;> rfl
  | cons c s ih =>
    have hshift :
        (assignedRest? name (isBlank c) s).map (fun r => pos + 1 + (s.length - r.length)) =
          (assignedRest? name (isBlank c) s).map fun r => pos + ((c :: s).length - r.length) := by
      cases h : assignedRest? name (isBlank c) s with
      | none => rfl
      | some r =>
        have := (suffix_of_assignedRest? h).length_le
        simp only [Option.map_some, List.length_cons, Option.some.injEq]
        omega
    cases skip with
    | succ k =>
      rw [findAssignmentFrom?, assignedRest?_cons_of_not (hskip [] _ rfl (Nat.succ_pos k)),
        ← hshift]
      refine ih k (pos + 1) fun u v huv hlt => hskip (c :: u) v (by rw [huv]; rfl) ?_
      exact Nat.succ_lt_succ hlt
    | zero =>
      have hnext : findAssignmentFrom? name (isBlank c) 0 (pos + 1) s =
          (assignedRest? name (isBlank c) s).map fun r => pos + 1 + (s.length - r.length) :=
        ih 0 (pos + 1) fun _ _ _ h => absurd h (Nat.not_lt_zero _)
      by_cases hstart : start = true ∧ name ++ [' '] <+: c :: s
      · obtain ⟨rfl, hp⟩ := hstart
        have hp' : (name ++ [' ']).isPrefixOf (c :: s) = true := List.isPrefixOf_iff_prefix.mpr hp
        simp only [findAssignmentFrom?, Bool.true_and, hp', if_true]
        cases ha : ahead (c :: s) with
        | noEquals => rw [assignedRest?_eq_none_of_notMem (ahead_eq_noEquals_iff.mp ha)]; rfl
        | equals => simp [assignedRest?_of_beginsAssignment ⟨hp, ha⟩]
        | quote =>
          have hne : ahead (c :: s) ≠ .equals := by simp [ha]
          rw [assignedRest?_cons_of_not fun hb => hne hb.2, ← hshift]
          refine ih name.length (pos + 1) fun u v huv hlt => ?_
          exact not_beginsAssignment_of_overlap hp hne (u := c :: u) (by rw [huv]; rfl) hlt
      · have hf : (start && (name ++ [' ']).isPrefixOf (c :: s)) = false := by
          rw [Bool.eq_false_iff]
          simpa [List.isPrefixOf_iff_prefix] using hstart
        have hr : assignedRest? name start (c :: s) = assignedRest? name (isBlank c) s := by
          rw [assignedRest?, if_neg fun h => hstart ⟨h.1, h.2.1⟩]
        simp only [findAssignmentFrom?, hf, Bool.false_eq_true, if_false]
        rw [hr, hnext, hshift]

/-- **The search finds the first assignment.** Occurrences that the search passes over after a
rejected one are no assignments either. -/
theorem findAssignment?_eq (name s : Text) :
    findAssignment? name s = (assignedRest? name true s).map fun r => s.length - r.length := by
  rw [findAssignment?, findAssignmentFrom?_eq 0 0 fun _ _ _ h => absurd h (Nat.not_lt_zero _)]
  simp

/-- Where a name is found, the text is cut before its first assignment. -/
theorem exists_of_findAssignment? {n : Nat} (h : findAssignment? name s = some n) :
    ∃ u v, s = u ++ v ∧ u.length = n ∧ assignedRest? name true s = some v := by
  rw [findAssignment?_eq] at h
  obtain ⟨v, hv, rfl⟩ := Option.map_eq_some_iff.mp h
  obtain ⟨u, rfl⟩ := suffix_of_assignedRest? hv
  exact ⟨u, v, rfl, by rw [List.length_append, Nat.add_sub_cancel], hv⟩

/-- An assignment begins where the text begins, if a word may begin there, or behind a blank. -/
theorem isSome_assignedRest?_iff : (assignedRest? name start s).isSome ↔
    (start = true ∧ BeginsAssignment name s) ∨
      ∃ u b t, s = u ++ b :: t ∧ isBlank b ∧ BeginsAssignment name t := by
  induction s generalizing start with
  | nil =>
    have hnil : ¬ BeginsAssignment name [] := fun h => by simpa using h.1
    simp [assignedRest?, hnil]
  | cons c s ih =>
    have hsplit : (∃ u b t, c :: s = u ++ b :: t ∧ isBlank b ∧ BeginsAssignment name t) ↔
        (isBlank c ∧ BeginsAssignment name s) ∨
          ∃ u b t, s = u ++ b :: t ∧ isBlank b ∧ BeginsAssignment name t := by
      constructor
      · rintro ⟨u, b, t, hs, hb, ht⟩
        cases u with
        | nil =>
          obtain ⟨rfl, rfl⟩ := List.cons.inj hs
          exact Or.inl ⟨hb, ht⟩
        | cons d u => exact Or.inr ⟨u, b, t, (List.cons.inj hs).2, hb, ht⟩
      · rintro (⟨hb, ht⟩ | ⟨u, b, t, rfl, hb, ht⟩)
        · exact ⟨[], c, s, rfl, hb, ht⟩
        · exact ⟨c :: u, b, t, rfl, hb, ht⟩
    rw [hsplit, assignedRest?]
    by_cases h : start = true ∧ BeginsAssignment name (c :: s)
    · simp [h]
    · rw [if_neg h, ih, or_iff_right h]

/-! ### Before an equals sign -/

/-- No assignment begins with a character that neither the name nor a blank is. -/
theorem not_beginsAssignment_cons (hc : c ∉ name ++ [' ']) : ¬ BeginsAssignment name (c :: s) := by
  obtain ⟨d, r, hd⟩ := List.exists_cons_of_ne_nil (l := name ++ [' ']) (by simp)
  rintro ⟨hp, -⟩
  rw [hd] at hp hc
  exact hc ((List.cons_prefix_cons.mp hp).1 ▸ List.mem_cons_self)

/-- **The first assignment before an equals sign.** Where an equals sign follows before any double
quote, a text holds an assignment as if the equals sign followed at once. -/
theorem assignedRest?_append_cons (hequals : '=' ∉ name) (hd : d ∉ name) (hd' : d ≠ ' ')
    (ht : ahead (d :: t) = .equals) : assignedRest? name start (s ++ d :: t) =
    ((assignedRest? name start (s ++ ['='])).map (·.dropLast ++ d :: t)).or
      (assignedRest? name (isBlank d) t) := by
  have hd'' : d ∉ name ++ [' '] := by simp [hd, hd']
  have he : '=' ∉ name ++ [' '] := by simp [hequals]
  induction s generalizing start with
  | nil =>
    rw [List.nil_append, List.nil_append,
      assignedRest?_cons_of_not (not_beginsAssignment_cons hd''),
      assignedRest?_cons_of_not (not_beginsAssignment_cons he)]
    rfl
  | cons c s ih =>
    have hiff : BeginsAssignment name (c :: (s ++ d :: t)) ↔
        BeginsAssignment name (c :: (s ++ ['='])) := by
      rw [BeginsAssignment, BeginsAssignment, ← List.cons_append, ← List.cons_append,
        Text.prefix_append_cons_iff hd'', Text.prefix_append_cons_iff he, ahead_append_iff,
        ahead_append_iff]
      simp [ht, ahead_equals_cons]
    have hlast : (c :: (s ++ ['='])).dropLast = c :: s := by
      rw [← List.cons_append, List.dropLast_concat]
    rw [List.cons_append, List.cons_append, assignedRest?, assignedRest?, ih]
    simp only [hiff]
    by_cases h : start = true ∧ BeginsAssignment name (c :: (s ++ ['='])) <;> simp [h, hlast]

/-- An assignment does not depend on what follows its equals sign. -/
theorem assignedRest?_append_equals_congr (hequals : '=' ∉ name)
    (h : assignedRest? name start (u ++ v ++ '=' :: t) = some (v ++ '=' :: t)) (t' : Text) :
    assignedRest? name start (u ++ v ++ '=' :: t') = some (v ++ '=' :: t') := by
  have hsplit (t : Text) : assignedRest? name start (u ++ v ++ '=' :: t) =
      ((assignedRest? name start (u ++ v ++ ['='])).map (·.dropLast ++ '=' :: t)).or
        (assignedRest? name (isBlank '=') t) :=
    assignedRest?_append_cons hequals hequals (by decide) (ahead_equals_cons t)
  rw [hsplit] at h ⊢
  cases hr : assignedRest? name start (u ++ v ++ ['=']) with
  | none =>
    rw [hr, Option.map_none, Option.none_or] at h
    have hlength := (suffix_of_assignedRest? h).length_le
    simp only [List.length_append, List.length_cons] at hlength
    omega
  | some r =>
    rw [hr, Option.map_some, Option.some_or, Option.some.injEq] at h
    rw [Option.map_some, Option.some_or, List.append_cancel_right h]

/-! ### Part by part -/

section Parts

variable (hname : IsName name)

include hname

theorem beginsAssignment_iff :
    BeginsAssignment name s ↔ ∃ v w, s = name ++ ' ' :: (v ++ '=' :: w) ∧ '\x22' ∉ v := by
  have hahead (t : Text) : ahead (name ++ ' ' :: t) = .equals ↔ ahead t = .equals := by
    have hnone : ahead name ≠ .equals := by
      rw [ahead_eq_noEquals_iff.mpr hname.equals_notMem]
      exact Ahead.noConfusion
    rw [ahead_append_iff, ahead_cons_of_ne (by decide) (by decide), or_iff_right hnone,
      and_iff_right hname.quote_notMem]
  constructor
  · rintro ⟨⟨t, rfl⟩, ht⟩
    rw [List.append_assoc, List.singleton_append, hahead, ahead_eq_equals_iff] at ht
    obtain ⟨v, w, rfl, hv⟩ := ht
    exact ⟨v, w, by simp, hv⟩
  · rintro ⟨v, w, rfl, hv⟩
    exact ⟨⟨v ++ '=' :: w, by simp⟩, (hahead _).mpr (ahead_append_equals hv w)⟩

/-- An assignment that only an equals sign behind the text completes begins in the text, at its
beginning or behind a blank. -/
theorem exists_of_assignedRest?_concat_equals {r : Text}
    (h : assignedRest? name start (s ++ ['=']) = some r) :
    ∃ u v, s = u ++ v ∧ r = v ++ ['='] ∧ v ≠ [] ∧ (u = [] ∨ ∃ u' b, u = u' ++ [b] ∧ isBlank b) := by
  obtain ⟨u, hu, hblank⟩ : ∃ u, s ++ ['='] = u ++ r ∧
      (u = [] ∨ ∃ u' b, u = u' ++ [b] ∧ isBlank b) := by
    rcases eq_or_exists_of_assignedRest? h with rfl | ⟨u, b, hs, hb⟩
    · exact ⟨[], rfl, Or.inl rfl⟩
    · exact ⟨u ++ [b], by rw [hs]; simp, Or.inr ⟨u, b, rfl, hb⟩⟩
  obtain ⟨v, w, rfl, -⟩ := (beginsAssignment_iff hname).mp (beginsAssignment_of_assignedRest? h)
  obtain ⟨v', c, hv'⟩ := (List.eq_nil_or_concat' (v ++ '=' :: w)).resolve_left (by simp)
  have hsplit : s ++ ['='] = (u ++ (name ++ ' ' :: v')) ++ [c] := by
    rw [hu, hv']
    simp
  obtain ⟨hs, hc⟩ := List.append_inj' hsplit rfl
  refine ⟨u, name ++ ' ' :: v', hs, ?_, by simp, hblank⟩
  rw [hv', hc]
  simp

theorem not_beginsAssignment_of_notMem (hc : c ∉ name) : ¬ BeginsAssignment name (c :: s) := by
  obtain ⟨d, n, rfl, -⟩ := hname.exists_cons
  rintro ⟨hp, -⟩
  exact hc ((List.cons_prefix_cons.mp hp).1 ▸ List.mem_cons_self)

/-- A character that the name does not hold is passed over. -/
theorem assignedRest?_cons_of_notMem (hc : c ∉ name) :
    assignedRest? name start (c :: s) = assignedRest? name (isBlank c) s :=
  assignedRest?_cons_of_not (not_beginsAssignment_of_notMem hname hc)

/-- Blanks are passed over, and a word may begin behind them. -/
theorem assignedRest?_append_of_isBlank (hs : ∀ c ∈ s, isBlank c) (hne : start = true ∨ s ≠ []) :
    assignedRest? name start (s ++ t) = assignedRest? name true t := by
  induction s generalizing start with
  | nil =>
    obtain rfl : start = true := by simpa using hne
    rfl
  | cons c s ih =>
    have hc : isBlank c := hs c List.mem_cons_self
    rw [List.cons_append, assignedRest?_cons_of_notMem hname (hname.notMem_of_isBlank hc), hc]
    exact ih (fun d hd => hs d (List.mem_cons_of_mem c hd)) (Or.inl rfl)

omit hname in
/-- Characters that are not blank are passed over inside of a word. -/
theorem assignedRest?_append_of_not_isBlank (hs : ∀ c ∈ s, isBlank c = false) :
    assignedRest? name false (s ++ t) = assignedRest? name false t := by
  induction s with
  | nil => rfl
  | cons c s ih =>
    have hc : isBlank c = false := hs c List.mem_cons_self
    have hstep : assignedRest? name false (c :: (s ++ t)) =
        assignedRest? name (isBlank c) (s ++ t) := by simp [assignedRest?]
    rw [List.cons_append, hstep, hc]
    exact ih fun d hd => hs d (List.mem_cons_of_mem c hd)

/-- A word that is not the name is passed over: another name before a blank. -/
theorem assignedRest?_name_append {other : Text} (ho : IsName other) (hne : name ≠ other) :
    assignedRest? name start (other ++ ' ' :: t) = assignedRest? name true t := by
  obtain ⟨c, o, rfl, hc⟩ := ho.exists_cons
  have hnot : ¬ BeginsAssignment name (c :: (o ++ ' ' :: t)) := fun hb =>
    hne ((hname.append_blank_prefix_iff ho).mp hb.1)
  have hblank : ∀ d ∈ o, isBlank d = false := fun d hd => by
    by_contra h
    exact ho.notMem_of_isBlank (Bool.not_eq_false _ ▸ h) (List.mem_cons_of_mem c hd)
  rw [List.cons_append, assignedRest?_cons_of_not hnot, hc,
    assignedRest?_append_of_not_isBlank hblank,
    assignedRest?_cons_of_notMem hname hname.blank_notMem]
  rfl

/-- **The first assignment before a double quote.** A double quote hides what follows it from the
text before it. -/
theorem assignedRest?_append_quote : assignedRest? name start (s ++ '\x22' :: t) =
    ((assignedRest? name start s).map (· ++ '\x22' :: t)).or (assignedRest? name false t) := by
  induction s generalizing start with
  | nil => exact assignedRest?_cons_of_notMem hname hname.quote_notMem
  | cons c s ih =>
    have hq : '\x22' ∉ name ++ [' '] := by simp [hname.quote_notMem]
    have hiff : BeginsAssignment name (c :: (s ++ '\x22' :: t)) ↔
        BeginsAssignment name (c :: s) := by
      rw [BeginsAssignment, BeginsAssignment, ← List.cons_append, Text.prefix_append_cons_iff hq,
        ahead_append_iff]
      simp [ahead_quote_cons_ne]
    rw [List.cons_append, assignedRest?, assignedRest?, ih]
    simp only [hiff]
    by_cases h : start = true ∧ BeginsAssignment name (c :: s) <;> simp [h]

/-- **Assignments in an escaped text.** A name holds no special characters, and no backtick is
blank, so escaping neither hides nor makes an assignment. -/
theorem assignedRest?_escape {allowVariables : Bool} :
    assignedRest? name start (escape allowVariables s) =
      (assignedRest? name start s).map (escape allowVariables) := by
  have hplain : ∀ c ∈ name ++ [' '], Text.isSpecial allowVariables c = false := by
    intro c hc
    by_contra h
    rcases List.mem_append.mp hc with hc | hc
    · exact hname.notMem_of_isSpecial
        (Text.isSpecial_false_of_isSpecial (Bool.not_eq_false _ ▸ h)) hc
    · rw [List.mem_singleton.mp hc] at h
      cases allowVariables <;> exact h (by decide)
  have hiff (s : Text) : BeginsAssignment name (escape allowVariables s) ↔
      BeginsAssignment name s := by
    rw [BeginsAssignment, BeginsAssignment, Text.prefix_escape_iff hplain, ahead_escape]
  induction s generalizing start with
  | nil => rw [Text.escape_nil]; rfl
  | cons c s ih =>
    cases hc : Text.isSpecial allowVariables c with
    | true =>
      have hspecial := Text.isSpecial_false_of_isSpecial hc
      have hmem : c ∉ name := hname.notMem_of_isSpecial hspecial
      rw [Text.escape_cons_of_isSpecial hc, assignedRest?_cons_of_notMem hname
        hname.backtick_notMem, assignedRest?_cons_of_notMem hname hmem,
        assignedRest?_cons_of_notMem hname hmem, ih]
    | false =>
      have h := hiff (c :: s)
      rw [Text.escape_cons_of_not_isSpecial hc] at h ⊢
      rw [assignedRest?, assignedRest?, ih]
      simp only [h]
      by_cases hb : start = true ∧ BeginsAssignment name (c :: s) <;>
        simp [hb, Text.escape_cons_of_not_isSpecial hc]

end Parts

end ResourceScript.Unquote

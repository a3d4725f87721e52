import Mathlib.Order.Bounds.Basic
import ResourceScript.Proofs.Unquote.Assignment

/-!
# The least position of an assignment

Whether a name is assigned at a position is told by the characters around it: a blank or nothing
stands before it, the name and a blank follow, and then an equals sign before any double quote. The
search leaves out the positions that an occurrence covers which it rejected, and it ends when no
equals sign is left; still it returns the least position of an assignment, also for a name that
holds blanks, equals signs or quotes and may overlap itself.

## Main definitions

* `Unquote.IsAssignedAt`: a position at which a name is assigned.

## Main results

* `Unquote.isAssignedAt_iff`: such a position cuts the text before an assignment.
* `Unquote.exists_assignedRest?_append`: no assignment comes before the first one.
* `Unquote.findAssignment?_isLeast`: the search returns the least position of an assignment.
-/

namespace ResourceScript.Unquote

open Text (isBlank)

/-- A name is assigned at a position: the text begins there or a blank stands before it, the text
goes on with the name and a blank, and no double quote comes before the first equals sign. -/
structure IsAssignedAt (name s : Text) (pos : Nat) : Prop where
  beginsWord : pos = 0 ∨ ∃ c ∈ s[pos - 1]?, isBlank c
  name_blank : name ++ [' '] <+: s.drop pos
  equals : ∃ e : Nat, pos ≤ e ∧ s[e]? = some '=' ∧
    ∀ i, pos ≤ i → i < e → s[i]? ≠ some '=' ∧ s[i]? ≠ some '\x22'

/-- A word may begin behind a part of a text: it has no last character, or a blank one. -/
def EndsWord (u : Text) : Prop := ∀ b ∈ u.getLast?, isBlank b

variable {name s u v : Text} {pos : Nat} {start : Bool}

/-! ### Positions and cuts -/

theorem endsWord_iff (v : Text) :
    EndsWord u ↔ u.length = 0 ∨ ∃ c ∈ (u ++ v)[u.length - 1]?, isBlank c := by
  rcases List.eq_nil_or_concat' u with rfl | ⟨init, b, rfl⟩ <;> simp [EndsWord]

theorem EndsWord.tail {c : Char} (h : EndsWord (c :: u)) :
    (u = [] → isBlank c = true) ∧ EndsWord u := by
  cases u with
  | nil => exact ⟨fun _ => h c rfl, fun b hb => absurd hb (by simp)⟩
  | cons d u => exact ⟨fun hu => absurd hu (List.cons_ne_nil d u), h⟩

/-- The first equals sign comes first when neither sign stands at a position before it. -/
theorem ahead_eq_equals_iff_getElem? : ahead s = .equals ↔
    ∃ e : Nat, s[e]? = some '=' ∧ ∀ i < e, s[i]? ≠ some '=' ∧ s[i]? ≠ some '\x22' := by
  rw [ahead_eq_equals_iff]
  constructor
  · rintro ⟨u, v, hs, hquote⟩
    have hmem : '=' ∈ s := by simp [hs]
    obtain ⟨before, after, rfl, hequals⟩ := List.eq_append_cons_of_mem hmem
    have hbefore : before <+: u :=
      (Text.prefix_append_cons_iff hequals).mp (hs ▸ List.prefix_append ..)
    refine ⟨before.length, by simp, fun i hi => ?_⟩
    rw [List.getElem?_append_left hi]
    exact ⟨fun h => hequals (List.mem_of_getElem? h),
      fun h => hquote (hbefore.subset (List.mem_of_getElem? h))⟩
  · rintro ⟨e, he, hbefore⟩
    obtain ⟨u, v, rfl, rfl⟩ := Text.exists_append_of_getElem? he
    refine ⟨u, v, rfl, fun hmem => ?_⟩
    obtain ⟨i, hi⟩ := List.mem_iff_getElem?.mp hmem
    have hlt := (List.getElem?_eq_some_iff.mp hi).1
    exact (hbefore i hlt).2 (by rw [List.getElem?_append_left hlt, hi])

/-- **Positions of assignments.** A name is assigned at a position if a word ends before it and an
assignment begins behind it. -/
theorem isAssignedAt_iff : IsAssignedAt name s pos ↔
    ∃ u v, s = u ++ v ∧ u.length = pos ∧ EndsWord u ∧ BeginsAssignment name v := by
  constructor
  · rintro ⟨hword, hname, e, hle, he, hbefore⟩
    have hlength : (s.take pos).length = pos := by
      have := (List.getElem?_eq_some_iff.mp he).1
      rw [List.length_take]
      omega
    have hsplit : s.take pos ++ s.drop pos = s := List.take_append_drop pos s
    refine ⟨s.take pos, s.drop pos, hsplit.symm, hlength, ?_, hname, ?_⟩
    · rw [endsWord_iff (s.drop pos), hsplit, hlength]
      exact hword
    · rw [ahead_eq_equals_iff_getElem?]
      refine ⟨e - pos, by rw [List.getElem?_drop, Nat.add_sub_of_le hle, he], fun i hi => ?_⟩
      rw [List.getElem?_drop]
      exact hbefore (pos + i) (Nat.le_add_right ..) (by omega)
  · rintro ⟨u, v, rfl, rfl, hword, hname, hahead⟩
    obtain ⟨e, he, hbefore⟩ := ahead_eq_equals_iff_getElem?.mp hahead
    refine ⟨(endsWord_iff v).mp hword, by rwa [List.drop_left' rfl], u.length + e,
      Nat.le_add_right .., ?_, fun i hle hi => ?_⟩
    · rw [List.getElem?_append_right (Nat.le_add_right ..), Nat.add_sub_cancel_left, he]
    · rw [List.getElem?_append_right hle]
      exact hbefore (i - u.length) (by omega)

/-! ### The first assignment -/

/-- **No assignment comes before the first one.** -/
theorem exists_assignedRest?_append (hstart : u = [] → start = true) (hword : EndsWord u)
    (hv : BeginsAssignment name v) :
    ∃ r, assignedRest? name start (u ++ v) = some r ∧ v.length ≤ r.length := by
  induction u generalizing start with
  | nil =>
    obtain rfl : start = true := hstart rfl
    exact ⟨v, assignedRest?_of_beginsAssignment hv, Nat.le_refl _⟩
  | cons c u ih =>
    rw [List.cons_append, assignedRest?]
    split
    · refine ⟨c :: (u ++ v), rfl, ?_⟩
      rw [List.length_cons, List.length_append]
      omega
    · exact ih hword.tail.1 hword.tail.2

/-- The rest from the first assignment on stands behind the end of a word. -/
theorem endsWord_of_assignedRest? (h : assignedRest? name true (u ++ v) = some v) : EndsWord u := by
  rcases eq_or_exists_of_assignedRest? h with heq | ⟨init, b, heq, hb⟩
  · obtain rfl : u = [] := by simpa using heq
    simp [EndsWord]
  · have hcut : u ++ v = init ++ [b] ++ v := by rw [heq, List.append_assoc, List.singleton_append]
    obtain rfl : u = init ++ [b] := List.append_cancel_right hcut
    simpa [EndsWord] using hb

/-- **The search misses no candidate.** It returns the least position at which the name is assigned,
and fails exactly if there is no such position. -/
theorem findAssignment?_isLeast (name s : Text) :
    (∀ pos, findAssignment? name s = some pos ↔ IsLeast {pos | IsAssignedAt name s pos} pos) ∧
      (findAssignment? name s = none ↔ ∀ pos, ¬ IsAssignedAt name s pos) := by
  have hsome : ∀ pos, findAssignment? name s = some pos →
      IsLeast {pos | IsAssignedAt name s pos} pos := by
    intro pos hfind
    obtain ⟨u, v, rfl, rfl, hrest⟩ := exists_of_findAssignment? hfind
    refine ⟨isAssignedAt_iff.mpr ⟨u, v, rfl, rfl, endsWord_of_assignedRest? hrest,
      beginsAssignment_of_assignedRest? hrest⟩, fun pos' hpos' => ?_⟩
    obtain ⟨u', v', hsplit, rfl, hword, hv'⟩ := isAssignedAt_iff.mp hpos'
    obtain ⟨r, hr, hle⟩ := exists_assignedRest?_append (fun _ => rfl) hword hv'
    rw [← hsplit, hrest, Option.some.injEq] at hr
    have hlength := congrArg List.length hsplit
    rw [List.length_append, List.length_append] at hlength
    rw [← hr] at hle
    omega
  have hnone : ∀ pos, IsAssignedAt name s pos → findAssignment? name s ≠ none := by
    intro pos hpos
    obtain ⟨u, v, rfl, rfl, hword, hv⟩ := isAssignedAt_iff.mp hpos
    obtain ⟨r, hr, -⟩ := exists_assignedRest?_append (fun _ => rfl) hword hv
    simp [findAssignment?_eq, hr]
  constructor
  · refine fun pos => ⟨hsome pos, fun hleast => ?_⟩
    obtain ⟨found, hfound⟩ := Option.ne_none_iff_exists'.mp (hnone pos hleast.1)
    rw [hfound, (hsome found hfound).unique hleast]
  · refine ⟨fun h pos hpos => hnone pos hpos h, fun h => ?_⟩
    by_contra hne
    obtain ⟨found, hfound⟩ := Option.ne_none_iff_exists'.mp hne
    exact h found (hsome found hfound).1

end ResourceScript.Unquote

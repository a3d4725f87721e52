import Mathlib.Data.List.Basic
import ResourceScript.Text.Basic

/-!
# Deleting positions

Positions are counted from the beginning of a text, so a part of it is deleted from with an offset:
`Text.deleteFrom` takes the position of the first character as an argument, and a text that is put
together is deleted from part by part. Where all deleted characters belong to one class, a text in
which something was deleted has lost a character of that class, which is how two places of deletion
are told apart.

## Main definitions

* `Text.deleteFrom`: a text without the listed positions, counted from a given one on.
* `Text.DeletesOnly`: all deleted characters belong to a class.

## Main results

* `Text.deleteFrom_append`: deletion acts on the parts of a text.
* `Text.exists_deleteAt_eq_iff`: the two ends of a text are kept exactly when all deleted positions
  lie in its middle.
-/

namespace ResourceScript.Text

/-- A text without the listed positions, its first character being at position `pos`. -/
def deleteFrom (pos : Nat) (positions : List Nat) (s : Text) : Text :=
  (s.zipIdx pos).filterMap fun (c, i) => if i ∈ positions then none else some c

theorem deleteAt_eq_deleteFrom (positions : List Nat) (s : Text) :
    deleteAt positions s = deleteFrom 0 positions s := rfl

variable {pos : Nat} {positions : List Nat} {s t u v m : Text} {c : Char}

@[simp] theorem deleteFrom_nil : deleteFrom pos positions [] = [] := rfl

theorem deleteFrom_cons_of_mem (h : pos ∈ positions) (c : Char) (s : Text) :
    deleteFrom pos positions (c :: s) = deleteFrom (pos + 1) positions s := by
  simp [deleteFrom, h]

theorem deleteFrom_cons_of_notMem (h : pos ∉ positions) (c : Char) (s : Text) :
    deleteFrom pos positions (c :: s) = c :: deleteFrom (pos + 1) positions s := by
  simp [deleteFrom, h]

/-- Deletion acts on the parts of a text. -/
theorem deleteFrom_append (s t : Text) : deleteFrom pos positions (s ++ t) =
    deleteFrom pos positions s ++ deleteFrom (pos + s.length) positions t := by
  simp [deleteFrom, List.zipIdx_append]

/-- A part without listed positions stays as it is. -/
theorem deleteFrom_of_forall_notMem (h : ∀ p ∈ positions, pos ≤ p → pos + s.length ≤ p) :
    deleteFrom pos positions s = s := by
  induction s generalizing pos with
  | nil => rfl
  | cons c s ih =>
    have hpos : pos ∉ positions := fun hm => by
      have := h pos hm (Nat.le_refl pos)
      simp only [List.length_cons] at this
      omega
    rw [deleteFrom_cons_of_notMem hpos, ih]
    intro p hp hle
    have := h p hp (by omega)
    simp only [List.length_cons] at this
    omega

/-- Only the listed positions inside of a part matter to it. -/
theorem deleteFrom_congr {positions' : List Nat}
    (h : ∀ p, pos ≤ p → p < pos + s.length → (p ∈ positions ↔ p ∈ positions')) :
    deleteFrom pos positions s = deleteFrom pos positions' s := by
  induction s generalizing pos with
  | nil => rfl
  | cons c s ih =>
    have hpos : pos ∈ positions ↔ pos ∈ positions' := h pos (Nat.le_refl pos) (by simp)
    have hs : deleteFrom (pos + 1) positions s = deleteFrom (pos + 1) positions' s :=
      ih fun p hle hlt => h p (by omega) (by simp only [List.length_cons]; omega)
    by_cases hm : pos ∈ positions
    · rw [deleteFrom_cons_of_mem hm, deleteFrom_cons_of_mem (hpos.mp hm), hs]
    · rw [deleteFrom_cons_of_notMem hm, deleteFrom_cons_of_notMem (mt hpos.mpr hm), hs]

theorem length_deleteFrom_le (pos : Nat) (positions : List Nat) (s : Text) :
    (deleteFrom pos positions s).length ≤ s.length := by
  induction s generalizing pos with
  | nil => exact Nat.le_refl 0
  | cons c s ih =>
    by_cases hm : pos ∈ positions
    · rw [deleteFrom_cons_of_mem hm, List.length_cons]
      exact Nat.le_succ_of_le (ih _)
    · rw [deleteFrom_cons_of_notMem hm, List.length_cons, List.length_cons]
      exact Nat.succ_le_succ (ih _)

/-- A listed position inside of a part makes it shorter. -/
theorem length_deleteFrom_lt {p : Nat} (hp : p ∈ positions) (hle : pos ≤ p)
    (hlt : p < pos + s.length) : (deleteFrom pos positions s).length < s.length := by
  induction s generalizing pos with
  | nil => simp at hlt; omega
  | cons c s ih =>
    by_cases hm : pos ∈ positions
    · rw [deleteFrom_cons_of_mem hm, List.length_cons]
      exact Nat.lt_succ_of_le (length_deleteFrom_le _ _ _)
    · rw [deleteFrom_cons_of_notMem hm, List.length_cons, List.length_cons]
      have hne : pos ≠ p := fun h => hm (h ▸ hp)
      exact Nat.succ_lt_succ (ih (by omega) (by simp only [List.length_cons] at hlt; omega))

/-- Deleting two characters with a text between them. -/
theorem deleteAt_pair (u v w : Text) (c d : Char) :
    deleteAt [u.length, u.length + 1 + v.length] (u ++ c :: (v ++ d :: w)) = u ++ (v ++ w) := by
  have hmem : ∀ p ∈ [u.length, u.length + 1 + v.length],
      p = u.length ∨ p = u.length + 1 + v.length := by simp
  rw [deleteAt_eq_deleteFrom, deleteFrom_append, Nat.zero_add, deleteFrom_cons_of_mem (by simp),
    deleteFrom_append, deleteFrom_cons_of_mem (by simp),
    deleteFrom_of_forall_notMem (s := u), deleteFrom_of_forall_notMem (s := v),
    deleteFrom_of_forall_notMem (s := w)]
  all_goals
    intro p hp
    have := hmem p hp
    omega

/-- A character at another position stays. -/
theorem mem_deleteFrom {i : Nat} (hi : s[i]? = some c) (h : pos + i ∉ positions) :
    c ∈ deleteFrom pos positions s := by
  rw [deleteFrom, List.mem_filterMap]
  exact ⟨(c, pos + i), List.mk_add_mem_zipIdx_iff_getElem?.mpr hi, by simp [h]⟩

/-! ### Deleting characters of a class -/

/-- All characters of `s` at listed positions belong to a class. -/
def DeletesOnly (q : Char → Bool) (pos : Nat) (positions : List Nat) (s : Text) : Prop :=
  ∀ i c, s[i]? = some c → pos + i ∈ positions → q c

variable {q : Char → Bool}

theorem DeletesOnly.left (h : DeletesOnly q pos positions (s ++ t)) :
    DeletesOnly q pos positions s := fun i c hi hm => by
  have hlt : i < s.length := (List.getElem?_eq_some_iff.mp hi).1
  exact h i c (by rw [List.getElem?_append_left hlt]; exact hi) hm

theorem DeletesOnly.right (h : DeletesOnly q pos positions (s ++ t)) :
    DeletesOnly q (pos + s.length) positions t := fun i c hi hm => by
  refine h (s.length + i) c ?_ (by rwa [← Nat.add_assoc])
  rw [List.getElem?_append_right (Nat.le_add_right ..), Nat.add_sub_cancel_left, hi]

theorem DeletesOnly.tail (h : DeletesOnly q pos positions (c :: s)) :
    DeletesOnly q (pos + 1) positions s :=
  DeletesOnly.right (s := [c]) h

/-- The characters outside of the class stay. -/
theorem DeletesOnly.filter_deleteFrom {q' : Char → Bool} (h : DeletesOnly q pos positions s)
    (hq : ∀ c, q c → q' c = false) : (deleteFrom pos positions s).filter q' = s.filter q' := by
  induction s generalizing pos with
  | nil => rfl
  | cons c s ih =>
    by_cases hm : pos ∈ positions
    · have hc : q' c = false := hq c (h 0 c rfl hm)
      rw [deleteFrom_cons_of_mem hm, ih h.tail, List.filter_cons_of_neg (by simp [hc])]
    · rw [deleteFrom_cons_of_notMem hm, List.filter_cons, List.filter_cons, ih h.tail]

/-- What a text loses in length it loses in characters of the class. -/
theorem DeletesOnly.countP_add_length (h : DeletesOnly q pos positions s) :
    (deleteFrom pos positions s).countP q + s.length =
      s.countP q + (deleteFrom pos positions s).length := by
  induction s generalizing pos with
  | nil => rfl
  | cons c s ih =>
    have hs := ih h.tail
    by_cases hm : pos ∈ positions
    · have hc : q c := h 0 c rfl hm
      rw [deleteFrom_cons_of_mem hm, List.countP_cons_of_pos hc, List.length_cons]
      omega
    · rw [deleteFrom_cons_of_notMem hm, List.countP_cons, List.countP_cons, List.length_cons,
        List.length_cons]
      omega

/-- A text cannot make up for deleted characters by what follows it, if that begins with a
character of another class. -/
theorem DeletesOnly.eq_of_append_cons_eq (h : DeletesOnly q pos positions s) (hc : ¬ q c)
    (he : deleteFrom pos positions s ++ c :: t = s ++ u) : deleteFrom pos positions s = s := by
  have hcount := h.countP_add_length
  have hle := length_deleteFrom_le pos positions s
  obtain ⟨y, hs, hct⟩ | ⟨y, hs, -⟩ := List.append_eq_append_iff.mp he
  · cases y with
    | nil => simpa using hs.symm
    | cons d y =>
      obtain ⟨rfl, -⟩ : c = d ∧ _ := by simpa using hct
      have hlen := congrArg List.length hs
      have hcnt := congrArg (List.countP q) hs
      rw [List.length_append, List.length_cons] at hlen
      rw [List.countP_append, List.countP_cons_of_neg hc] at hcnt
      have := List.countP_le_length (p := q) (l := y)
      omega
  · have hlen := congrArg List.length hs
    rw [List.length_append] at hlen
    have hy : y = [] := List.eq_nil_of_length_eq_zero (by omega)
    rw [hs, hy, List.append_nil]

/-- A text cannot make up for deleted characters by what precedes it, if that ends in a character
of another class. -/
theorem DeletesOnly.eq_of_cons_append_eq (h : DeletesOnly q pos positions s) (hc : ¬ q c)
    (he : t ++ c :: deleteFrom pos positions s = u ++ s) : deleteFrom pos positions s = s := by
  have hcount := h.countP_add_length
  have hle := length_deleteFrom_le pos positions s
  have hshort : ∀ y, s ≠ y ++ c :: deleteFrom pos positions s := fun y hs => by
    have hlen := congrArg List.length hs
    have hcnt := congrArg (List.countP q) hs
    rw [List.length_append, List.length_cons] at hlen
    rw [List.countP_append, List.countP_cons_of_neg hc] at hcnt
    have := List.countP_le_length (p := q) (l := y)
    omega
  obtain ⟨y, -, hs⟩ | ⟨y, -, hs⟩ := List.append_eq_append_iff.mp he
  · cases y with
    | nil => exact absurd hs.symm (hshort [])
    | cons d y =>
      have hs' : deleteFrom pos positions s = y ++ s := (List.cons.inj hs).2
      have hlen := congrArg List.length hs'
      rw [List.length_append] at hlen
      have hy : y = [] := List.eq_nil_of_length_eq_zero (by omega)
      rw [hs', hy, List.nil_append]
  · exact absurd hs (hshort y)

theorem DeletesOnly.head?_deleteFrom (h : DeletesOnly q pos positions s) (hc : ¬ q c)
    (hs : s.head? = some c) : (deleteFrom pos positions s).head? = some c := by
  obtain ⟨t, rfl⟩ := List.head?_eq_some_iff.mp hs
  have hm : pos ∉ positions := fun hm => hc (h 0 c rfl hm)
  rw [deleteFrom_cons_of_notMem hm]
  rfl

theorem DeletesOnly.getLast?_deleteFrom (h : DeletesOnly q pos positions s) (hc : ¬ q c)
    (hs : s.getLast? = some c) : (deleteFrom pos positions s).getLast? = some c := by
  obtain ⟨t, rfl⟩ := List.getLast?_eq_some_iff.mp hs
  have hm : pos + t.length ∉ positions := fun hm => hc (h.right 0 c rfl hm)
  rw [deleteFrom_append, deleteFrom_cons_of_notMem hm, deleteFrom_nil, List.getLast?_concat]

/-- **Keeping the two ends of a text.** Let the middle of a text begin and end with characters of
other classes than the deleted ones. Then both ends are still there after the deletion exactly when
all deleted positions lie in the middle. -/
theorem exists_deleteAt_eq_iff {first last : Char} (hfirst : ¬ q first) (hlast : ¬ q last)
    (hm : m.head? = some first) (hm' : m.getLast? = some last)
    (h : DeletesOnly q 0 positions (u ++ m ++ v))
    (hbound : ∀ p ∈ positions, p < (u ++ m ++ v).length) :
    (∃ x, deleteAt positions (u ++ m ++ v) = u ++ x ++ v) ↔
      ∀ p ∈ positions, u.length ≤ p ∧ p < u.length + m.length := by
  have hsplit : deleteAt positions (u ++ m ++ v) = deleteFrom 0 positions u ++
      deleteFrom (0 + u.length) positions m ++ deleteFrom (0 + (u ++ m).length) positions v := by
    rw [deleteAt_eq_deleteFrom, deleteFrom_append, deleteFrom_append]
  rw [hsplit]
  have hu : DeletesOnly q 0 positions u := h.left.left
  have hv : DeletesOnly q (0 + (u ++ m).length) positions v := h.right
  simp only [List.length_append] at hbound hsplit hv ⊢
  constructor
  · rintro ⟨x, hx⟩ p hp
    obtain ⟨y, hy⟩ := List.head?_eq_some_iff.mp (h.left.right.head?_deleteFrom hfirst hm)
    obtain ⟨z, hz⟩ := List.getLast?_eq_some_iff.mp (h.left.right.getLast?_deleteFrom hlast hm')
    have hkeepu : deleteFrom 0 positions u = u := by
      rw [hy, List.append_assoc, List.append_assoc] at hx
      exact hu.eq_of_append_cons_eq hfirst hx
    have hkeepv : deleteFrom (0 + (u.length + m.length)) positions v = v := by
      rw [hz, ← List.append_assoc, List.append_assoc] at hx
      exact hv.eq_of_cons_append_eq hlast hx
    constructor
    · by_contra hlt
      have := length_deleteFrom_lt hp (Nat.zero_le p) (s := u) (by omega)
      rw [hkeepu] at this
      exact Nat.lt_irrefl _ this
    · by_contra hge
      have hle : 0 + (u.length + m.length) ≤ p := by omega
      have := length_deleteFrom_lt hp hle (s := v) (by have := hbound p hp; omega)
      rw [hkeepv] at this
      exact Nat.lt_irrefl _ this
  · intro hall
    refine ⟨deleteFrom (0 + u.length) positions m, ?_⟩
    rw [deleteFrom_of_forall_notMem (s := u), deleteFrom_of_forall_notMem (s := v)]
    · intro p hp hle
      have := (hall p hp).2
      omega
    · intro p hp _
      have := (hall p hp).1
      omega

end ResourceScript.Text

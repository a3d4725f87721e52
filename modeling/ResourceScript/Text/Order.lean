import ResourceScript.Text.Basic

/-!
# Dictionary order

Texts are sorted by their first difference, which is decided by code point; a text comes before
the texts that it begins.

## Main definitions

* `Text.le` : the dictionary order.

## Main results

* `Text.le_total`, `Text.le_trans`, `Text.le_antisymm` : it is a linear order.
-/

namespace ResourceScript.Text

/-- The dictionary order by code point. -/
def le : Text → Text → Bool
  | [], _ => true
  | _ :: _, [] => false
  | c :: s, d :: t => c.toNat < d.toNat || (c.toNat == d.toNat && le s t)

theorem le_refl (s : Text) : le s s := by
  induction s with
  | nil => rfl
  | cons c s ih => simp [le, ih]

theorem le_total (s t : Text) : le s t || le t s := by
  induction s generalizing t with
  | nil => simp [le]
  | cons c s ih =>
    cases t with
    | nil => simp [le]
    | cons d t =>
      have h := ih t
      simp only [le, Bool.or_eq_true, Bool.and_eq_true, decide_eq_true_eq, beq_iff_eq] at h ⊢
      rcases Nat.lt_trichotomy c.toNat d.toNat with hlt | heq | hgt
      · exact .inl (.inl hlt)
      · exact h.imp (fun h => .inr ⟨heq, h⟩) fun h => .inr ⟨heq.symm, h⟩
      · exact .inr (.inl hgt)

theorem le_trans {s t u : Text} (hst : le s t) (htu : le t u) : le s u := by
  induction s generalizing t u with
  | nil => rfl
  | cons c s ih =>
    cases t with
    | nil => simp [le] at hst
    | cons d t =>
      cases u with
      | nil => simp [le] at htu
      | cons e u =>
        simp only [le, Bool.or_eq_true, Bool.and_eq_true, decide_eq_true_eq, beq_iff_eq]
          at hst htu ⊢
        rcases hst with hcd | ⟨hcd, hst⟩ <;> rcases htu with hde | ⟨hde, htu⟩
        · exact .inl (Nat.lt_trans hcd hde)
        · exact .inl (hde ▸ hcd)
        · exact .inl (hcd ▸ hde)
        · exact .inr ⟨hcd.trans hde, ih hst htu⟩

theorem le_antisymm {s t : Text} (hst : le s t) (hts : le t s) : s = t := by
  induction s generalizing t with
  | nil =>
    cases t with
    | nil => rfl
    | cons d t => simp [le] at hts
  | cons c s ih =>
    cases t with
    | nil => simp [le] at hst
    | cons d t =>
      simp only [le, Bool.or_eq_true, Bool.and_eq_true, decide_eq_true_eq, beq_iff_eq] at hst hts
      rcases hst with hcd | ⟨hcd, hst⟩
      · rcases hts with hdc | ⟨hdc, -⟩ <;> omega
      · rcases hts with hdc | ⟨-, hts⟩
        · omega
        · rw [Char.toNat_inj.mp hcd, ih hst hts]

end ResourceScript.Text

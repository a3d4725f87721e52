import Mathlib.Data.List.Forall2

/-!
# Steps that may fail

What a list of steps gives when they are taken one after another: what the results are if all of
them succeed, and why they fail otherwise.

## Main results

* `bind_eq_ok_iff`, `map_eq_ok_iff`: two steps, of which the second one may always succeed.
* `mapM_eq_ok_iff`, `exists_of_mapM_eq_ok`, `exists_mapM_eq_ok`: a step for each item of a list.
* `exists_mapM_eq`, `exists_mapM_eq_error_iff`, `mapM_eq_error`: whether all steps succeed, and why
  they do not.
-/

namespace ResourceScript

variable {ε α β γ : Type}

theorem bind_eq_ok_iff {x : Except ε α} {f : α → Except ε β} {b : β} :
    (x >>= f) = .ok b ↔ ∃ a, x = .ok a ∧ f a = .ok b := by
  cases x with
  | error e => simp [bind, Except.bind]
  | ok a => simp [bind, Except.bind]

theorem map_eq_ok_iff {x : Except ε α} {f : α → β} {b : β} :
    x.map f = .ok b ↔ ∃ a, x = .ok a ∧ f a = b := by
  cases x <;> simp [Except.map]

theorem mapM_eq_ok_iff {f : α → Except ε β} {l : List α} {bs : List β} :
    l.mapM f = .ok bs ↔ List.Forall₂ (fun a b => f a = .ok b) l bs := by
  induction l generalizing bs with
  | nil => simp [pure, Except.pure, eq_comm]
  | cons a l ih =>
    simp only [List.mapM_cons, bind_eq_ok_iff, ih]
    constructor
    · rintro ⟨b, hb, bs, hbs, heq⟩
      obtain rfl := Except.ok.inj heq
      exact .cons hb hbs
    · rintro (_ | ⟨hb, hbs⟩)
      exact ⟨_, hb, _, hbs, rfl⟩

/-- Each result is that of the step for one of the items. -/
theorem exists_of_mapM_eq_ok {f : α → Except ε β} {l : List α} {bs : List β} {b : β}
    (h : l.mapM f = .ok bs) (hb : b ∈ bs) : ∃ a ∈ l, f a = .ok b := by
  rw [mapM_eq_ok_iff] at h
  induction h with
  | nil => exact absurd hb List.not_mem_nil
  | @cons a _ _ _ hc _ ih =>
    rcases List.mem_cons.mp hb with rfl | hb
    · exact ⟨a, List.mem_cons_self, hc⟩
    · obtain ⟨a', ha', hf⟩ := ih hb
      exact ⟨a', List.mem_cons_of_mem a ha', hf⟩

/-- If each step succeeds with a result of some kind, then all of them do, one after another. -/
theorem exists_mapM_eq_ok {R : γ → β → Prop} {f : α → Except ε β} {g : α → γ} {l : List α}
    (h : ∀ a ∈ l, ∃ b, f a = .ok b ∧ R (g a) b) :
    ∃ bs, l.mapM f = .ok bs ∧ List.Forall₂ R (l.map g) bs := by
  induction l with
  | nil => exact ⟨[], rfl, .nil⟩
  | cons a l ih =>
    obtain ⟨⟨b, hb, hR⟩, hl⟩ := List.forall_mem_cons.mp h
    obtain ⟨bs, hbs, hRs⟩ := ih hl
    exact ⟨b :: bs, mapM_eq_ok_iff.mpr (.cons hb (mapM_eq_ok_iff.mp hbs)), .cons hR hRs⟩

/-- If each step succeeds, then all of them do, one after another. -/
theorem exists_mapM_eq {f : α → Except ε β} {l : List α} (h : ∀ a ∈ l, ∃ b, f a = .ok b) :
    ∃ bs, l.mapM f = .ok bs := by
  obtain ⟨bs, hbs, -⟩ := exists_mapM_eq_ok (R := fun _ _ => True) (g := id)
    fun a ha => (h a ha).imp fun b hb => ⟨hb, trivial⟩
  exact ⟨bs, hbs⟩

/-- The steps for all items fail exactly if the step for one of them does. -/
theorem exists_mapM_eq_error_iff {f : α → Except ε β} {l : List α} :
    (∃ e, l.mapM f = .error e) ↔ ∃ a ∈ l, ∃ e, f a = .error e := by
  induction l with
  | nil => simp [pure, Except.pure]
  | cons a l ih =>
    rw [List.mapM_cons, List.exists_mem_cons_iff, ← ih]
    cases f a <;> cases l.mapM f <;> simp [bind, Except.bind, pure, Except.pure]

/-- If each step that fails does so for the same reason, then this is why all of them fail. -/
theorem mapM_eq_error {f : α → Except ε β} {l : List α} {e : ε}
    (h : ∀ a ∈ l, (∃ b, f a = .ok b) ∨ f a = .error e) (hfail : ∃ a ∈ l, f a = .error e) :
    l.mapM f = .error e := by
  induction l with
  | nil => simp at hfail
  | cons a l ih =>
    obtain ⟨ha, hl⟩ := List.forall_mem_cons.mp h
    rw [List.mapM_cons]
    rcases ha with ⟨b, hb⟩ | he
    · have hrest : ∃ a ∈ l, f a = .error e := by
        obtain ⟨a', ha', he⟩ := hfail
        rcases List.mem_cons.mp ha' with rfl | ha'
        · exact absurd (hb.symm.trans he) (by simp)
        · exact ⟨a', ha', he⟩
      rw [hb, ih hl hrest]
      rfl
    · rw [he]
      rfl

end ResourceScript

import Mathlib.Data.List.Forall2
import ResourceScript.Text.Basic

/-!
# Joined texts

Parts that are joined with a separator can be read back one after another, if each part is read back
from what follows it: the separator of the next part, or the sign that closes the last one.

## Main results

* `Text.joinWith_cons_cons`, `Text.joinWith_concat`: the first part and the last part, and what
  stands between the parts.
* `Text.joinWith_append_inj`: reading the parts one after another.
-/

namespace ResourceScript.Text

variable {α : Type} {R : α → Text → Prop} {separator l : Text} {ls ms : List Text} {as bs : List α}
  {c e : Char} {t u : Text}

@[simp] theorem joinWith_nil (separator : Text) : joinWith separator [] = [] := rfl

@[simp] theorem joinWith_singleton (separator l : Text) : joinWith separator [l] = l := by
  simp [joinWith]

theorem joinWith_cons_cons (separator l l' : Text) (ls : List Text) :
    joinWith separator (l :: l' :: ls) = l ++ (separator ++ joinWith separator (l' :: ls)) := by
  simp [joinWith]

/-- Every part but the last one is followed by the separator. -/
theorem joinWith_concat (separator : Text) (ls : List Text) (l : Text) :
    joinWith separator (ls ++ [l]) = (ls.map (· ++ separator)).flatten ++ l := by
  induction ls with
  | nil => exact joinWith_singleton separator l
  | cons l' ls ih =>
    rw [List.map_cons, List.flatten_cons, List.append_assoc, ← ih]
    cases ls with
    | nil => simp [joinWith]
    | cons l'' ls => simp [joinWith_cons_cons]

/-- The characters of joined texts are those of the parts and of the separator. -/
theorem mem_joinWith {d : Char} : ∀ {ls : List Text}, d ∈ joinWith separator ls →
    d ∈ separator ∨ ∃ l ∈ ls, d ∈ l
  | [], h => absurd h List.not_mem_nil
  | [l], h => Or.inr ⟨l, List.mem_cons_self, by rwa [joinWith_singleton] at h⟩
  | l :: l' :: ls, h => by
    rw [joinWith_cons_cons, List.mem_append, List.mem_append] at h
    rcases h with h | h | h
    · exact Or.inr ⟨l, List.mem_cons_self, h⟩
    · exact Or.inl h
    · exact (mem_joinWith h).imp_right fun ⟨m, hm, hd⟩ => ⟨m, List.mem_cons_of_mem l hm, hd⟩

/-- What follows the first part: the separator and the other parts, or the closing sign. -/
private theorem exists_joinWith_cons_append (l : Text) (ls : List Text) (t : Text) :
    ∃ d r, joinWith (c :: separator) (l :: ls) ++ e :: t = l ++ d :: r ∧
      ((ls = [] ∧ d = e ∧ r = t) ∨
        (ls ≠ [] ∧ d = c ∧ r = separator ++ (joinWith (c :: separator) ls ++ e :: t))) := by
  cases ls with
  | nil => exact ⟨e, t, by rw [joinWith_singleton], Or.inl ⟨rfl, rfl, rfl⟩⟩
  | cons l' ls =>
    refine ⟨c, _, ?_, Or.inr ⟨List.cons_ne_nil _ _, rfl, rfl⟩⟩
    simp [joinWith_cons_cons]

section Read

variable (hread : ∀ {a b : α} {l m : Text} {d d' : Char} {t u : Text}, R a l → R b m →
    d ∈ [c, e] → d' ∈ [c, e] → l ++ d :: t = m ++ d' :: u → a = b ∧ d = d' ∧ t = u)
  (hbegin : ∀ {a : α} {l t u : Text}, R a l → l ++ t ≠ e :: u) (hce : c ≠ e)

include hread hbegin hce

/-- **Reading joined parts.** What the parts stand for, and what follows the closing sign, is
determined by the whole. -/
theorem joinWith_append_inj (ha : List.Forall₂ R as ls) (hb : List.Forall₂ R bs ms)
    (h : joinWith (c :: separator) ls ++ e :: t = joinWith (c :: separator) ms ++ e :: u) :
    as = bs ∧ t = u := by
  induction ha generalizing bs ms with
  | nil =>
    cases hb with
    | nil => exact ⟨rfl, (List.cons.inj h).2⟩
    | @cons b m bs ms hm _ =>
      obtain ⟨d, r, hr, -⟩ := exists_joinWith_cons_append (c := c) (e := e) m ms u
      exact absurd (hr.symm.trans h.symm) (hbegin hm)
  | @cons a l as ls hl has ih =>
    obtain ⟨d, r, hr, hls⟩ := exists_joinWith_cons_append (c := c) (e := e) l ls t
    rw [hr] at h
    cases hb with
    | nil => exact absurd h (hbegin hl)
    | @cons b m bs ms hm hbs =>
      obtain ⟨d', r', hr', hms⟩ := exists_joinWith_cons_append (c := c) (e := e) m ms u
      rw [hr'] at h
      have hd : d ∈ [c, e] := by rcases hls with ⟨-, rfl, -⟩ | ⟨-, rfl, -⟩ <;> simp
      have hd' : d' ∈ [c, e] := by rcases hms with ⟨-, rfl, -⟩ | ⟨-, rfl, -⟩ <;> simp
      obtain ⟨rfl, rfl, rfl⟩ := hread hl hm hd hd' h
      rcases hls with ⟨rfl, rfl, rfl⟩ | ⟨-, rfl, rfl⟩
      · rcases hms with ⟨rfl, -, rfl⟩ | ⟨-, hd, -⟩
        · cases has
          cases hbs
          exact ⟨rfl, rfl⟩
        · exact absurd hd hce.symm
      · rcases hms with ⟨-, hd, -⟩ | ⟨-, -, hrest⟩
        · exact absurd hd hce
        · obtain ⟨rfl, hrest⟩ := ih hbs (List.append_cancel_left hrest)
          exact ⟨rfl, hrest⟩

end Read

end ResourceScript.Text

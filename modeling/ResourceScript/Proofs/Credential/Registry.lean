import ResourceScript.Credential.Registry

/-!
# Users are held from when they are saved

Saving adds a user and keeps the others, so the users of a registry only grow, however many users
are saved one after the other. A registry that does not change when a user is saved already holds
that user.

## Main results

* `Registry.mem_usernames_saveAll`: the names that are registered after users were saved.
* `Registry.save_eq_self_iff`: saving a user who is held changes nothing.
* `Registry.usernames_subset_saveAll`: no user is lost by saving others.
-/

namespace ResourceScript.Registry

variable {r : Registry} {username other key : Text} {usernames : List Text}

/-- Users with the same lower-case name are held alike. -/
theorem holds_congr (h : Text.lowerCase other = Text.lowerCase username) :
    r.holds other = r.holds username := by
  rw [holds, holds, h]

theorem holds_iff : r.holds username ↔ Text.lowerCase username ∈ r.usernames :=
  List.contains_iff_mem

theorem mem_usernames_save :
    key ∈ (r.save username).usernames ↔ key ∈ r.usernames ∨ key = Text.lowerCase username := by
  rw [save]
  split
  · next h => exact ⟨Or.inl, fun hkey => hkey.elim id fun heq => heq ▸ h⟩
  · exact List.mem_append.trans (or_congr_right List.mem_singleton)

/-- Saving a user who is held changes nothing, and saving another one does. -/
theorem save_eq_self_iff : r.save username = r ↔ r.holds username := by
  rw [holds_iff]
  constructor
  · intro h
    rw [← h, mem_usernames_save]
    exact Or.inr rfl
  · intro h
    rw [save, dif_pos h]

theorem saveAll_append (usernames usernames' : List Text) :
    r.saveAll (usernames ++ usernames') = (r.saveAll usernames).saveAll usernames' :=
  List.foldl_append

@[simp] theorem lead_saveAll (usernames : List Text) : (r.saveAll usernames).lead = r.lead := by
  induction usernames generalizing r with
  | nil => rfl
  | cons username usernames ih => exact ih.trans (lead_save r username)

/-- After users were saved, their lower-case names are registered besides those that were. -/
theorem mem_usernames_saveAll : key ∈ (r.saveAll usernames).usernames ↔
    key ∈ r.usernames ∨ ∃ username ∈ usernames, key = Text.lowerCase username := by
  induction usernames generalizing r with
  | nil => simp [saveAll]
  | cons username usernames ih =>
    rw [saveAll, List.foldl_cons, ← saveAll, ih, mem_usernames_save, or_assoc]
    simp

/-- No user is lost by saving others. -/
theorem usernames_subset_saveAll (usernames : List Text) :
    r.usernames ⊆ (r.saveAll usernames).usernames :=
  fun _ hkey => mem_usernames_saveAll.mpr (Or.inl hkey)

end ResourceScript.Registry

import ResourceScript.Credential.Basic
import ResourceScript.Text.LowerCase
import ResourceScript.Text.Order

/-!
# Credential registry

The users whose credentials a configuration refers to.  Users are compared by the lower-case form
of their names, and each is held once.

## Main definitions

* `Registry` : the beginning of references and the registered users.
* `Registry.save`, `Registry.holds`, `Registry.clear` : the operations on users.
* `Registry.referenceName` : the reference to a user under the registry's own beginning.

## Main results

* `Registry.holds_save` : which users are held after one was saved.
-/

namespace ResourceScript

/-- The registered users, by lower-case name and in the order in which they were first saved. -/
structure Registry where
  lead : Text := Credential.defaultReferencePrefix
  usernames : List Text := []
  usernames_nodup : usernames.Nodup := by simp

namespace Registry

/-- Whether a user is registered. -/
def holds (r : Registry) (username : Text) : Bool :=
  r.usernames.contains (Text.lowerCase username)

/-- Registers a user. -/
def save (r : Registry) (username : Text) : Registry :=
  if h : Text.lowerCase username ∈ r.usernames then r
  else
    { r with
      usernames := r.usernames ++ [Text.lowerCase username]
      usernames_nodup := by
        have := r.usernames_nodup
        simp [List.nodup_append, this]
        intro a ha e
        exact h (e ▸ ha) }

/-- Registers users one after the other. -/
def saveAll (r : Registry) (usernames : List Text) : Registry :=
  usernames.foldl save r

/-- Forgets all users. -/
def clear (r : Registry) : Registry :=
  { r with usernames := [], usernames_nodup := by simp }

/-- The number of registered users. -/
def size (r : Registry) : Nat := r.usernames.length

/-- The registered users in dictionary order. -/
def sortedUsernames (r : Registry) : List Text :=
  r.usernames.mergeSort Text.le

/-- The variable that stands for a user. -/
def referenceName (r : Registry) (username : Text) : Text :=
  Credential.referenceName username r.lead

@[simp] theorem lead_save (r : Registry) (username : Text) : (r.save username).lead = r.lead := by
  unfold save
  split <;> rfl

/-- Saving a user adds the users with the same lower-case name and no other. -/
theorem holds_save (r : Registry) (username other : Text) :
    (r.save username).holds other =
      (r.holds other || Text.lowerCase other == Text.lowerCase username) := by
  by_cases e : Text.lowerCase other = Text.lowerCase username
  · unfold save holds
    split <;> simp_all
  · unfold save holds
    split <;> simp [e]

end Registry

end ResourceScript

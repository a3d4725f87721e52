import ResourceScript.Text.Basic

/-!
# Entries in insertion order

A finite map from texts that remembers the order in which its keys were first set.  Setting a key
that is already held keeps its position; a key that is erased and set again goes to the end.

## Main definitions

* `Entries` : the pairs in order.
* `Entries.get?`, `Entries.set`, `Entries.erase` : look-up and the two changes.
* `Entries.ofList` : sets pair after pair.

## Main results

* `Entries.get?_set` : look-up after setting a key.
* `Entries.keys_set` : the keys after setting a key.
-/

namespace ResourceScript

/-- The pairs of a finite map in the order of their first insertion. -/
abbrev Entries (α : Type) := List (Text × α)

namespace Entries

variable {α : Type}

/-- The keys in order. -/
def keys (es : Entries α) : List Text := es.map (·.1)

/-- The value under a key. -/
def get? : Entries α → Text → Option α
  | [], _ => none
  | (k, v) :: es, key => if k = key then some v else get? es key

/-- Whether a key is held. -/
def contains (es : Entries α) (key : Text) : Bool := (es.get? key).isSome

/-- Sets the value under a key, in place or at the end. -/
def set : Entries α → Text → α → Entries α
  | [], key, value => [(key, value)]
  | (k, v) :: es, key, value => if k = key then (k, value) :: es else (k, v) :: set es key value

/-- Forgets a key. -/
def erase (es : Entries α) (key : Text) : Entries α := es.filter (·.1 ≠ key)

/-- Sets pair after pair, so that the last value of a key stands at its first position. -/
def ofList (pairs : List (Text × α)) : Entries α :=
  pairs.foldl (fun es (k, v) => es.set k v) []

/-- Setting a key changes the look-up of that key only. -/
theorem get?_set (es : Entries α) (key other : Text) (value : α) :
    (es.set key value).get? other = if other = key then some value else es.get? other := by
  induction es with
  | nil => simp [set, get?, eq_comm]
  | cons e es ih =>
    obtain ⟨k, v⟩ := e
    by_cases h : k = key
    · subst h
      by_cases ho : k = other
      · simp [set, get?, ho]
      · simp [set, get?, ho, Ne.symm ho]
    · by_cases ho : k = other
      · subst ho
        simp [set, get?, h]
      · simp [set, get?, h, ho, ih]

/-- A key that is held keeps its position, and a new key goes to the end. -/
theorem keys_set (es : Entries α) (key : Text) (value : α) :
    (es.set key value).keys = if key ∈ es.keys then es.keys else es.keys ++ [key] := by
  induction es with
  | nil => simp [set, keys]
  | cons e es ih =>
    obtain ⟨k, v⟩ := e
    by_cases h : k = key
    · subst h
      simp [set, keys]
    · have h' : key ≠ k := fun e => h e.symm
      simp only [keys] at ih
      by_cases hm : key ∈ es.map (·.1) <;> simp [set, keys, h, h', ih, hm]

end Entries

end ResourceScript

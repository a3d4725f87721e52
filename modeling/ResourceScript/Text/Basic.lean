/-!
# Texts

A text is a finite sequence of Unicode code points.  Positions, lengths and the dictionary order
are all counted by code point.  This file holds the operations that the rest of the library
builds on: searching for a text inside another one, deleting positions, and replacing the
matches of a pattern in one pass from left to right.

## Main definitions

* `Text.find?`, `Text.findFrom?` : the first occurrence of a text in another one.
* `Text.substituteMatches` : replacement of the non-overlapping matches of a pattern.
* `Text.replaceAll`, `Text.replaceChar` : the replacement of a fixed text and of one character.
* `Text.deleteAt` : a text without the characters at the listed positions.

## Main results

* `Text.isPrefixOf_drop_find?` : the searched text stands where `Text.find?` says.
-/

namespace ResourceScript

/-- A text is the list of its code points. -/
abbrev Text := List Char

namespace Text

/-! ### Searching -/

/-- The least position at which `p` begins in a text. -/
def find? (p : Text) : Text → Option Nat
  | [] => if p.isEmpty then some 0 else none
  | c :: s => if p.isPrefixOf (c :: s) then some 0 else (find? p s).map (· + 1)

/-- The least position that is at least `n` and at which `p` begins in `s`. -/
def findFrom? (p s : Text) (n : Nat) : Option Nat :=
  (find? p (s.drop n)).map (· + n)

/-- The searched text stands at the position that the search returns. -/
theorem isPrefixOf_drop_find? {p : Text} : ∀ {s : Text} {n : Nat},
    find? p s = some n → p.isPrefixOf (s.drop n)
  | [], n, h => by
    simp only [find?] at h
    split at h
    · next hp => simp_all
    · simp at h
  | c :: s, n, h => by
    simp only [find?] at h
    split at h
    · next hp =>
      obtain rfl : 0 = n := by simpa using h
      simpa using hp
    · obtain ⟨m, hm, rfl⟩ := Option.map_eq_some_iff.1 h
      simpa using isPrefixOf_drop_find? hm

/-- The text before the first `c`, and the text after it when there is one. -/
def cutAt (c : Char) (s : Text) : Text × Option Text :=
  match s.dropWhile (· != c) with
  | [] => (s, none)
  | _ :: rest => (s.takeWhile (· != c), some rest)

/-- The rest of a text that begins with `p`. -/
def dropIfPrefix? (p s : Text) : Option Text :=
  if p.isPrefixOf s then some (s.drop p.length) else none

/-! ### Replacing -/

/-- Replaces matches from left to right.  `matchLength` gives the length of the match that begins
at the head of a text, with `0` for none, and `image` gives the text to put in its place.  The
number counts the characters of the last match that are still to be passed over. -/
def substituteMatchesFrom (matchLength : Text → Nat) (image : Text → Text) : Nat → Text → Text
  | _, [] => []
  | k + 1, _ :: s => substituteMatchesFrom matchLength image k s
  | 0, c :: s =>
    match matchLength (c :: s) with
    | 0 => c :: substituteMatchesFrom matchLength image 0 s
    | n + 1 => image ((c :: s).take (n + 1)) ++ substituteMatchesFrom matchLength image n s

/-- Replaces the non-overlapping matches of a pattern, each by the image of the matched text. -/
def substituteMatches (matchLength : Text → Nat) (image : Text → Text) (s : Text) : Text :=
  substituteMatchesFrom matchLength image 0 s

/-- Replaces every occurrence of the non-empty text `old` by `new`, from left to right. -/
def replaceAll (old new s : Text) : Text :=
  substituteMatches (fun t => if old.isPrefixOf t then old.length else 0) (fun _ => new) s

/-- Replaces every occurrence of one character by a text. -/
def replaceChar (old : Char) (new : Text) (s : Text) : Text :=
  s.flatMap fun c => if c = old then new else [c]

@[simp] theorem replaceChar_nil (old : Char) (new : Text) : replaceChar old new [] = [] := rfl

@[simp] theorem replaceChar_append (old : Char) (new s t : Text) :
    replaceChar old new (s ++ t) = replaceChar old new s ++ replaceChar old new t := by
  simp [replaceChar]

/-! ### Deleting, padding, joining -/

/-- A text without the characters at the listed positions. -/
def deleteAt (positions : List Nat) (s : Text) : Text :=
  s.zipIdx.filterMap fun (c, i) => if i ∈ positions then none else some c

/-- Appends blanks until the text has at least the given length. -/
def padRight (width : Nat) (s : Text) : Text :=
  s ++ List.replicate (width - s.length) ' '

theorem length_padRight (width : Nat) (s : Text) :
    (padRight width s).length = max s.length width := by
  simp [padRight]; omega

/-- Joins texts with a separator between neighbours. -/
def joinWith (separator : Text) (parts : List Text) : Text :=
  (parts.intersperse separator).flatten

end Text

end ResourceScript

import ResourceScript.Text.Basic

/-!
# Blank characters

Blank characters separate a name from what precedes it, may form an indentation, and are removed
at the two ends of a type name.  The class holds the Unicode characters with the property
`White_Space` and the four information separators `U+001C` to `U+001F`.

## Main definitions

* `Text.isWhiteSpace` : the Unicode property `White_Space`.
* `Text.isBlank` : the blank characters.
* `Text.trimBlank`, `Text.trimWhiteSpace` : a text without such characters at its two ends.

## Main results

* `Text.isBlank_of_isWhitespace` : every blank of the core library is blank here.
-/

namespace ResourceScript.Text

/-- The Unicode property `White_Space`. -/
def isWhiteSpace (c : Char) : Bool :=
  let n := c.val
  (0x09 ≤ n && n ≤ 0x0d) || n == 0x20 || n == 0x85 || n == 0xa0 || n == 0x1680 ||
    (0x2000 ≤ n && n ≤ 0x200a) || n == 0x2028 || n == 0x2029 || n == 0x202f || n == 0x205f ||
    n == 0x3000

/-- White space and the four information separators. -/
def isBlank (c : Char) : Bool :=
  isWhiteSpace c || (0x1c ≤ c.val && c.val ≤ 0x1f)

/-- The blanks of the core library are blank here. -/
theorem isBlank_of_isWhitespace {c : Char} (h : c.isWhitespace) : isBlank c := by
  simp only [Char.isWhitespace, Bool.or_eq_true, decide_eq_true_eq] at h
  rcases h with ((rfl | rfl) | rfl) | rfl <;> rfl

/-- Drops the characters of a class at the two ends of a text. -/
def trimOf (drop : Char → Bool) (s : Text) : Text :=
  ((s.dropWhile drop).reverse.dropWhile drop).reverse

/-- A text without blanks at its two ends. -/
def trimBlank (s : Text) : Text := trimOf isBlank s

/-- A text without white space at its two ends. -/
def trimWhiteSpace (s : Text) : Text := trimOf isWhiteSpace s

end ResourceScript.Text

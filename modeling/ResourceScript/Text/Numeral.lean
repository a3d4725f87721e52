import ResourceScript.Text.Basic

/-!
# Numerals

Decimal and hexadecimal numerals as texts, and the values of digits.

## Main definitions

* `Text.ofNat`, `Text.ofInt` : decimal numerals.
* `Text.hexNumeral` : hexadecimal numerals of a fixed width.
* `Text.digitIn?`, `Text.numeralIn?` : reading a digit or a numeral in a given base.
-/

namespace ResourceScript.Text

/-- The decimal numeral of a natural number. -/
def ofNat (n : Nat) : Text := Nat.toDigits 10 n

/-- The decimal numeral of an integer, with a sign when it is negative. -/
def ofInt : Int → Text
  | .ofNat n => ofNat n
  | .negSucc n => '-' :: ofNat (n + 1)

/-- A power of ten. -/
def powerOfTen (n : Nat) : Nat := Nat.pow 10 n

/-- The last `width` hexadecimal digits of a number, in lower case. -/
def hexNumeral (width n : Nat) : Text :=
  (List.range width).reverse.map fun i => Nat.digitChar (n >>> (4 * i) % 16)

/-- The value of a digit below `base`, for a base of at most sixteen. -/
def digitIn? (base : Nat) (c : Char) : Option Nat :=
  let n := c.toNat
  let value :=
    if '0' ≤ c && c ≤ '9' then n - 48
    else if 'a' ≤ c && c ≤ 'f' then n - 87
    else if 'A' ≤ c && c ≤ 'F' then n - 55
    else base
  if value < base then some value else none

/-- The value of a sequence of digits, the most significant first; the empty one has value `0`. -/
def numeralIn? (base : Nat) (s : Text) : Option Nat :=
  s.foldlM (fun n c => (digitIn? base c).map (n * base + ·)) 0

/-- Whether a character is an ASCII digit. -/
def isDigit (c : Char) : Bool := '0' ≤ c && c ≤ '9'

/-- The value of a sequence of ASCII digits. -/
def digitsValue (s : Text) : Nat :=
  s.foldl (fun n c => n * 10 + (c.toNat - 48)) 0

theorem length_hexNumeral (width n : Nat) : (hexNumeral width n).length = width := by
  simp [hexNumeral]

end ResourceScript.Text

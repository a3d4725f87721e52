import ResourceScript.Text.Blank
import ResourceScript.Text.Numeral

/-!
# Decimal digits

The decimal digits of all scripts come in blocks of ten, from zero to nine.  Numbers may be
written with any of them, and with single underscores between digits.

## Main definitions

* `Text.zeroDigits` : the digit zero of each script.
* `Text.withPlainDigits` : a text with its digits written as ASCII digits.
* `Text.dropDigitSeparators?` : a text without its underscores, which must stand between digits.
* `Text.integer?` : the integer that a text stands for.
-/

namespace ResourceScript.Text

/-- The digit zero of each script. -/
def zeroDigits : List Nat :=
  [0x30, 0x660, 0x6f0, 0x7c0, 0x966, 0x9e6, 0xa66, 0xae6, 0xb66, 0xbe6, 0xc66, 0xce6, 0xd66, 0xde6,
   0xe50, 0xed0, 0xf20, 0x1040, 0x1090, 0x17e0, 0x1810, 0x1946, 0x19d0, 0x1a80, 0x1a90, 0x1b50,
   0x1bb0, 0x1c40, 0x1c50, 0xa620, 0xa8d0, 0xa900, 0xa9d0, 0xa9f0, 0xaa50, 0xabf0, 0xff10, 0x104a0,
   0x10d30, 0x11066, 0x110f0, 0x11136, 0x111d0, 0x112f0, 0x11450, 0x114d0, 0x11650, 0x116c0,
   0x11730, 0x118e0, 0x11950, 0x11c50, 0x11d50, 0x11da0, 0x16a60, 0x16ac0, 0x16b50, 0x1d7ce,
   0x1d7d8, 0x1d7e2, 0x1d7ec, 0x1d7f6, 0x1e140, 0x1e2f0, 0x1e950, 0x1fbf0]

/-- The ASCII digit of the same value, for a decimal digit of any script. -/
def plainDigit (c : Char) : Char :=
  if c.toNat < 0x80 then c
  else match zeroDigits.find? fun first => first ≤ c.toNat && c.toNat < first + 10 with
    | some first => Char.ofNat (48 + (c.toNat - first))
    | none => c

/-- A text with its digits written as ASCII digits. -/
def withPlainDigits (s : Text) : Text := s.map plainDigit

/-- Whether every underscore stands between two digits; `afterDigit` tells whether a digit
precedes the text. -/
def separatesDigits (afterDigit : Bool) : Text → Bool
  | [] => true
  | c :: s =>
    if c = '_' then
      afterDigit && (match s with | [] => false | d :: _ => isDigit d) && separatesDigits false s
    else separatesDigits (isDigit c) s

/-- A text without its underscores, provided that each of them stands between two digits. -/
def dropDigitSeparators? (s : Text) : Option Text :=
  if separatesDigits false s then some (s.filter (· != '_')) else none

/-- The natural number that a non-empty sequence of ASCII digits stands for. -/
def natural? (s : Text) : Option Nat :=
  if !s.isEmpty && s.all isDigit then some (digitsValue s) else none

/-- The integer that a text of plain digits with an optional sign stands for. -/
def signed? : Text → Option Int
  | '-' :: s => (natural? s).map fun n => -(n : Int)
  | '+' :: s => (natural? s).map fun n => (n : Int)
  | s => (natural? s).map fun n => (n : Int)

/-- The integer that a text stands for: white space at the ends is ignored, a sign may precede the
digits, and single underscores may stand between them. -/
def integer? (s : Text) : Option Int :=
  (dropDigitSeparators? (withPlainDigits (trimWhiteSpace s))).bind signed?

end ResourceScript.Text

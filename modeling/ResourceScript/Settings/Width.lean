import ResourceScript.Binary64.Basic
import ResourceScript.Settings.Problem
import ResourceScript.Text.Blank
import ResourceScript.Text.Numeral

/-!
# Reading widths

A width may be supplied as an integer, as a truth value, as a whole floating-point number or as a
numeral.  A numeral may have white space around it, a sign, leading zeros, single underscores and
a fraction that consists of zeros.

## Main definitions

* `Settings.integerOfText` : the integer of a numeral.
* `Settings.integerOfFloat` : the integer of a floating-point number.
* `Settings.widthOfInteger` : an integer as a width.
-/

namespace ResourceScript.Settings

/-- A text without one leading plus sign, which no minus sign may follow. -/
def dropPlus? : Text → Option Text
  | '+' :: '-' :: _ => none
  | '+' :: s => some s
  | s => some s

/-- Passes over zeros and underscores up to another digit, to the character before a point, or to
the last character.  `before` is the character before the text. -/
def passZeros? (before : Char) : Text → Option Text
  | [] => some [before]
  | c :: s =>
    if c = '0' ∨ c = '_' then passZeros? c s
    else if '1' ≤ c ∧ c ≤ '9' then some (c :: s)
    else if c = '.' then some (before :: c :: s)
    else none

/-- A numeral without superfluous leading zeros; it begins with a digit or a minus sign. -/
def dropLeadingZeros? : Text → Option Text
  | [] => none
  | c :: s =>
    if c = '0' then passZeros? c s
    else if ('1' ≤ c ∧ c ≤ '9') ∨ c = '-' then some (c :: s)
    else none

/-- A numeral without a point that is followed by zeros only, of which there must be some. -/
def dropZeroFraction (s : Text) : Text :=
  match Text.cutAt '.' s with
  | (whole, some fraction) =>
    if !fraction.isEmpty && fraction.all (· == '0') then whole else s
  | _ => s

/-- Whether two underscores follow one another. -/
def hasDoubleUnderscore (s : Text) : Bool := (Text.find? ['_', '_'] s).isSome

/-- A numeral without its underscores, which are single and stand inside. -/
def dropUnderscores? (s : Text) : Option Text :=
  if s.head? = some '_' ∨ s.getLast? = some '_' ∨ hasDoubleUnderscore s then none
  else some (s.filter (· != '_'))

/-- The greatest number of digits that a numeral may have. -/
def maxDigits : Nat := 4300

/-- The integer of a plain numeral: an optional minus sign and digits without leading zero. -/
def integerOfPlain (s : Text) : Except Problem Int :=
  let (negative, digits) := match s with
    | '-' :: digits => (true, digits)
    | digits => (false, digits)
  if digits.isEmpty || !digits.all Text.isDigit then .error .unreadableInteger
  else if digits.head? = some '0' ∧ digits.length ≠ 1 then .error .unreadableInteger
  else if maxDigits < digits.length then .error .oversizedInteger
  else
    let n : Int := Text.digitsValue digits
    .ok (if negative then -n else n)

/-- The integer of a numeral. -/
def integerOfText (s : Text) : Except Problem Int :=
  match ((dropPlus? (Text.trimWhiteSpace s)).bind dropLeadingZeros?).bind
      fun t => dropUnderscores? (dropZeroFraction t) with
  | some plain => integerOfPlain plain
  | none => .error .unreadableInteger

/-- The least positive integer that exceeds a signed word of 64 bits. -/
def wordBound : Int := 0x8000000000000000

/-- The integer of a floating-point number, which must be whole and fit into 64 bits. -/
def integerOfFloat (x : Binary64) : Except Problem Int :=
  if !x.isFinite then .error .notFinite
  else match x.toInt? with
    | none => .error .hasFraction
    | some n => if -wordBound < n ∧ n < wordBound then .ok n else .error .oversizedInteger

/-- An integer as a width. -/
def widthOfInteger (n : Int) : Except Problem Nat :=
  if n < 0 then .error .negative else .ok n.toNat

end ResourceScript.Settings

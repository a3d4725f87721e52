import ResourceScript.Binary64.Basic
import ResourceScript.Text.Blank
import ResourceScript.Text.DecimalDigit

/-!
# Reading decimals

Reads the text of a floating-point number: a sign, then digits with at most one point and an
optional exponent part, or one of the words for infinity and for an undefined number.  Single
underscores may stand between digits, white space at the two ends is ignored, and case does not
matter.  The value is rounded to the nearest binary number.

## Main definitions

* `Binary64.ofDecimal` : the nearest number to `digits * 10 ^ exponent`.
* `Binary64.ofText?` : the number that a text stands for.
-/

namespace ResourceScript.Binary64

/-- The nearest number to `digits * 10 ^ exponent`.  Outside of a range that covers all finite
numbers the answer does not need the power of ten. -/
def ofDecimal (negative : Bool) (digits : Nat) (exponent : Int) : Binary64 :=
  let top : Int := exponent + (Text.ofNat digits).length
  if digits = 0 then zero negative
  else if 400 < top then infinity negative
  else if top < -400 then zero negative
  else match exponent with
    | .ofNat e => ofRatio negative (digits * Text.powerOfTen e) 1
    | .negSucc e => ofRatio negative digits (Text.powerOfTen (e + 1))

/-- The digits at the head of a text, and the rest. -/
def takeDigits (s : Text) : Text × Text :=
  (s.takeWhile Text.isDigit, s.dropWhile Text.isDigit)

/-- The sign at the head of a text, and the rest. -/
def takeSign : Text → Bool × Text
  | '-' :: s => (true, s)
  | '+' :: s => (false, s)
  | s => (false, s)

/-- The exponent that a text stands for: nothing at all, or a mark and an integer. -/
def exponentOf? : Text → Option Int
  | [] => some 0
  | mark :: s =>
    if mark = 'e' ∨ mark = 'E' then
      let (negative, unsigned) := takeSign s
      match takeDigits unsigned with
      | ([], _) => none
      | (_, _ :: _) => none
      | (ds, []) =>
        let n : Int := Text.digitsValue ds
        some (if negative then -n else n)
    else none

/-- The number that an unsigned decimal stands for. -/
def ofUnsigned? (negative : Bool) (s : Text) : Option Binary64 :=
  let (whole, afterWhole) := takeDigits s
  let (fraction, rest) := match afterWhole with
    | '.' :: afterPoint => takeDigits afterPoint
    | _ => ([], afterWhole)
  if whole.isEmpty && fraction.isEmpty then none
  else (exponentOf? rest).map fun e =>
    ofDecimal negative (Text.digitsValue (whole ++ fraction)) (e - fraction.length)

/-- The words for infinity, in lower case. -/
def infinityWords : List Text := ["inf".toList, "infinity".toList]

/-- The word for an undefined number, in lower case. -/
def nanWord : Text := "nan".toList

/-- The number that a text of plain digits without underscores stands for. -/
def ofPlainText? (s : Text) : Option Binary64 :=
  let (negative, unsigned) := takeSign s
  let word := unsigned.map Char.toLower
  if infinityWords.contains word then some (infinity negative)
  else if word = nanWord then some (nan negative)
  else ofUnsigned? negative unsigned

/-- The number that a text stands for. -/
def ofText? (s : Text) : Option Binary64 :=
  (Text.dropDigitSeparators? (Text.withPlainDigits (Text.trimWhiteSpace s))).bind ofPlainText?

end ResourceScript.Binary64

import ResourceScript.Binary64.Basic
import ResourceScript.Text.Numeral

/-!
# Shortest decimals

The shortest decimal that rounds to a given binary number, and the layout in which it is printed.
For one, two, … seventeen digits the two neighbours of the number on the decimal grid are tested
in exact arithmetic.  The first grid with a neighbour that rounds back wins; of two such
neighbours the nearer one is taken, and the even one when both are equally near.

## Main definitions

* `Binary64.Decimal` : a natural number of units of a power of ten.
* `Binary64.shortestDecimal` : the shortest decimal that rounds to a positive finite number.
* `Binary64.Layout`, `Binary64.layout` : the decisions of the printed form.
* `Binary64.toText` : the printed form.
-/

namespace ResourceScript.Binary64

/-! ### The shortest decimal -/

/-- The decimal `units * 10 ^ exponent`. -/
structure Decimal where
  units : Nat
  exponent : Int

/-- The numbers that round to `significand * 2 ^ exponent`, in quarters of that unit: from
`low` to `high`, the ends included when `closed` holds. -/
structure RoundingInterval where
  low : Nat
  middle : Nat
  high : Nat
  closed : Bool

/-- The interval around a significand.  Below a power of two the numbers lie twice as dense. -/
def RoundingInterval.around (significand : Nat) (narrowBelow : Bool) : RoundingInterval where
  low := 4 * significand - (if narrowBelow then 1 else 2)
  middle := 4 * significand
  high := 4 * significand + 2
  closed := significand % 2 == 0

/-- Whether the quotient `num / den` lies in the interval. -/
def RoundingInterval.contains (i : RoundingInterval) (num den : Nat) : Bool :=
  if i.closed then i.low * den ≤ num && num ≤ i.high * den
  else i.low * den < num && num < i.high * den

/-- The numerator and denominator of `num / den * 10 ^ k`. -/
def scaleByTen (num den : Nat) : Int → Nat × Nat
  | .ofNat n => (num * Text.powerOfTen n, den)
  | .negSucc n => (num, den * Text.powerOfTen (n + 1))

/-- The exponent of the greatest power of ten that is at most a positive quotient. -/
def decimalExponent (num den : Nat) : Int :=
  if den ≤ num then ((Text.ofNat (num / den)).length : Int) - 1
  else
    let k := (Text.ofNat (den / num)).length - 1
    if den ≤ num * Text.powerOfTen k then -k else -(k + 1)

/-- The decimal with the given unit that rounds to the middle of the interval and is nearest to
it.  Quarters are worth `2 ^ quarter`. -/
def Decimal.onGrid? (i : RoundingInterval) (quarter unit : Int) : Option Decimal :=
  -- One decimal unit is `num / den` quarters.
  let (n, d) := scaleByTen 1 1 unit
  let (num, den) := scaleRatio n d (-quarter)
  let below := i.middle * den / num
  let belowFits := i.contains (below * num) den
  let aboveFits := i.contains ((below + 1) * num) den
  let gapBelow := i.middle * den - below * num
  let gapAbove := (below + 1) * num - i.middle * den
  let above? := aboveFits &&
    (!belowFits || gapAbove < gapBelow || (gapAbove == gapBelow && below % 2 == 1))
  if above? then some ⟨below + 1, unit⟩
  else if belowFits then some ⟨below, unit⟩
  else none

/-- The shortest decimal that rounds to `significand * 2 ^ exponent`. -/
def shortestDecimal (significand : Nat) (exponent : Int) (narrowBelow : Bool) : Decimal :=
  let interval := RoundingInterval.around significand narrowBelow
  let (num, den) := scaleRatio significand 1 exponent
  let top := decimalExponent num den
  let grids := (List.range 17).map fun (k : Nat) => top - k
  (grids.findSome? (Decimal.onGrid? interval (exponent - 2))).getD ⟨num, 0⟩

/-! ### The printed form -/

/-- The decisions of a printed form: which exponents are written without exponent part, the text
after a whole number, the least number of exponent digits, and the texts of the special values. -/
structure Layout where
  leastPositional : Int
  greatestPositional : Int
  wholeMark : Text
  exponentDigits : Nat
  infinityText : Text
  nanText : Text

/-- Numbers from `10 ^ (-4)` up to `10 ^ 16` are written without exponent part, whole numbers end
in `.0`, and exponents have a sign and two digits at least. -/
def layout : Layout where
  leastPositional := -4
  greatestPositional := 15
  wholeMark := ".0".toList
  exponentDigits := 2
  infinityText := "inf".toList
  nanText := "nan".toList

/-- Digits `d₁d₂…` standing for `d₁.d₂… * 10 ^ exponent`, without exponent part. -/
def positionalText (l : Layout) (digits : Text) (exponent : Int) : Text :=
  match exponent with
  | .ofNat e =>
    if digits.length ≤ e + 1 then
      digits ++ List.replicate (e + 1 - digits.length) '0' ++ l.wholeMark
    else digits.take (e + 1) ++ '.' :: digits.drop (e + 1)
  | .negSucc e => '0' :: '.' :: (List.replicate e '0' ++ digits)

/-- Digits `d₁d₂…` standing for `d₁.d₂… * 10 ^ exponent`, with exponent part. -/
def scientificText (l : Layout) (digits : Text) (exponent : Int) : Text :=
  let power := Text.ofNat exponent.natAbs
  let padded := List.replicate (l.exponentDigits - power.length) '0' ++ power
  let lead := match digits with
    | [] => []
    | [d] => [d]
    | d :: ds => d :: '.' :: ds
  lead ++ 'e' :: (if exponent < 0 then '-' else '+') :: padded

/-- The text of a decimal. -/
def Decimal.toText (l : Layout) (x : Decimal) : Text :=
  let all := Text.ofNat x.units
  let digits := (all.reverse.dropWhile (· == '0')).reverse
  let exponent := x.exponent + (all.length - 1 : Nat)
  if digits.isEmpty then '0' :: l.wholeMark
  else if l.leastPositional ≤ exponent ∧ exponent ≤ l.greatestPositional then
    positionalText l digits exponent
  else scientificText l digits exponent

/-- The shortest text that reads back as the number. -/
def toText (x : Binary64) : Text :=
  let sign := if x.isNegative then ['-'] else []
  match x.magnitude with
  | .nan => layout.nanText
  | .infinite => sign ++ layout.infinityText
  | .finite 0 _ => sign ++ Decimal.toText layout ⟨0, 0⟩
  | .finite m q =>
    let narrowBelow := x.fractionField == 0 && 1 < x.exponentField
    sign ++ (shortestDecimal m q narrowBelow).toText layout

end ResourceScript.Binary64

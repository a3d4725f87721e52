import ResourceScript.Binary64.Basic

/-!
# Sums and multiples

The sum of two numbers and the multiple of a number, each rounded to the nearest number.

## Main definitions

* `Binary64.ofInteger` : the nearest number to an integer multiple of a power of two.
* `Binary64.scale`, `Binary64.add` : multiples and sums.
-/

namespace ResourceScript.Binary64

/-- The nearest number to `n * 2 ^ exponent`. -/
def ofInteger (n exponent : Int) : Binary64 :=
  let (num, den) := scaleRatio n.natAbs 1 exponent
  ofRatio (n < 0) num den

/-- A finite number as an integer multiple of a power of two. -/
def toScaled? (x : Binary64) : Option (Int × Int) :=
  match x.magnitude with
  | .finite m q => some (if x.isNegative then -m else m, q)
  | _ => none

/-- The number with the opposite sign. -/
def negate (x : Binary64) : Binary64 :=
  ofFields (!x.isNegative) (x.bits.toNat % signUnit)

/-- A number times a positive natural number. -/
def scale (x : Binary64) (n : Nat) : Binary64 :=
  match x.toScaled? with
  | some (m, q) => if m = 0 then x else ofInteger (m * n) q
  | none => x

/-- The sum of two numbers. -/
def add (x y : Binary64) : Binary64 :=
  match x.toScaled?, y.toScaled? with
  | some (m, p), some (n, q) =>
    let low := min p q
    let sum := m * powerOfTwo (p - low).toNat + n * powerOfTwo (q - low).toNat
    if sum = 0 ∧ x.isNegative ∧ y.isNegative then x else ofInteger sum low
  | some _, none => y
  | none, some _ => x
  | none, none => if x = y then x else nan false

end ResourceScript.Binary64

/-!
# Binary floating-point numbers of 64 bits

A number is given by its encoding: a sign bit, eleven exponent bits and fifty-two fraction bits.
Finite numbers are read as `m * 2 ^ q` with natural `m`, and a quotient of natural numbers is
rounded to the nearest encoding, ties to the even one.  All arithmetic is exact.

## Main definitions

* `Binary64` : an encoding.
* `Binary64.Magnitude`, `Binary64.magnitude` : what an encoding stands for, sign aside.
* `Binary64.ofRatio` : the nearest number to a quotient.
* `Binary64.floor?`, `Binary64.isWhole` : the integral part of a finite number.
-/

namespace ResourceScript

/-- A binary floating-point number of 64 bits, given by its encoding. -/
structure Binary64 where
  bits : UInt64
  deriving DecidableEq

namespace Binary64

/-- What an encoding stands for, without its sign. -/
inductive Magnitude where
  | nan
  | infinite
  /-- The number `significand * 2 ^ exponent`. -/
  | finite (significand : Nat) (exponent : Int)

/-- The value of the sign bit. -/
def signUnit : Nat := 0x8000000000000000

/-- The value of the lowest exponent bit. -/
def exponentUnit : Nat := 0x10000000000000

/-- The number that all exponent bits together make up. -/
def exponentLimit : Nat := 0x7ff

/-- Whether the sign bit is set. -/
def isNegative (x : Binary64) : Bool := signUnit ≤ x.bits.toNat

/-- The exponent bits. -/
def exponentField (x : Binary64) : Nat := x.bits.toNat / exponentUnit % (exponentLimit + 1)

/-- The fraction bits. -/
def fractionField (x : Binary64) : Nat := x.bits.toNat % exponentUnit

/-- The magnitude that an encoding stands for. -/
def magnitude (x : Binary64) : Magnitude :=
  if x.exponentField = exponentLimit then
    if x.fractionField = 0 then .infinite else .nan
  else if x.exponentField = 0 then .finite x.fractionField (-1074)
  else .finite (exponentUnit + x.fractionField) (x.exponentField - 1075)

/-- The encoding with the given sign and the given magnitude bits. -/
def ofFields (negative : Bool) (magnitudeBits : Nat) : Binary64 :=
  ⟨UInt64.ofNat (if negative then signUnit + magnitudeBits else magnitudeBits)⟩

/-- The magnitude bits of infinity. -/
def infinityBits : Nat := exponentLimit * exponentUnit

/-- The infinity of the given sign. -/
def infinity (negative : Bool) : Binary64 := ofFields negative infinityBits

/-- The undefined number of the given sign. -/
def nan (negative : Bool) : Binary64 := ofFields negative (infinityBits + exponentUnit / 2)

/-- The zero of the given sign. -/
def zero (negative : Bool) : Binary64 := ofFields negative 0

/-! ### Rounding -/

/-- The nearest natural number to a quotient, an exact half going to the even neighbour. -/
def roundQuotient (num den : Nat) : Nat :=
  let below := num / den
  let rest := num % den
  if 2 * rest < den then below
  else if den < 2 * rest then below + 1
  else below + below % 2

/-- A power of two. -/
def powerOfTwo (n : Nat) : Nat := Nat.pow 2 n

/-- Scales a quotient by a power of two: the numerator and denominator of `num / den * 2 ^ k`. -/
def scaleRatio (num den : Nat) (k : Int) : Nat × Nat :=
  match k with
  | .ofNat n => (num * powerOfTwo n, den)
  | .negSucc n => (num, den * powerOfTwo (n + 1))

/-- The exponent of the greatest power of two that is at most a positive quotient. -/
def binaryExponent (num den : Nat) : Int :=
  let guess : Int := (num.log2 : Int) - den.log2
  let (n, d) := scaleRatio num den (-guess)
  if n < d then guess - 1 else guess

/-- The nearest number to a quotient with the given sign.  A magnitude beyond the greatest finite
number rounds to infinity. -/
def ofRatio (negative : Bool) (num den : Nat) : Binary64 :=
  if num = 0 then zero negative
  else
    let exponent := max (binaryExponent num den - 52) (-1074)
    let (n, d) := scaleRatio num den (-exponent)
    let magnitudeBits := (exponent + 1074).toNat * exponentUnit + roundQuotient n d
    if infinityBits ≤ magnitudeBits then infinity negative else ofFields negative magnitudeBits

/-! ### Integral part -/

/-- The integral part of a finite magnitude, and whether nothing is lost. -/
def truncateMagnitude (significand : Nat) : Int → Nat × Bool
  | .ofNat k => (significand * powerOfTwo k, true)
  | .negSucc k => (significand / powerOfTwo (k + 1), significand % powerOfTwo (k + 1) == 0)

/-- The integer that a number is equal to, if there is one. -/
def toInt? (x : Binary64) : Option Int :=
  match x.magnitude with
  | .finite m q =>
    match truncateMagnitude m q with
    | (n, true) => some (if x.isNegative then -n else n)
    | (_, false) => none
  | _ => none

/-- Whether a number is neither infinite nor undefined. -/
def isFinite (x : Binary64) : Bool :=
  match x.magnitude with
  | .finite _ _ => true
  | _ => false

/-- Whether a number is one of the two zeros. -/
def isZero (x : Binary64) : Bool :=
  match x.magnitude with
  | .finite 0 _ => true
  | _ => false

end Binary64

end ResourceScript

import ResourceScript.Binary64.Reader
import ResourceScript.Binary64.Sum
import ResourceScript.Text.LowerCase
import ResourceScript.Yaml.Tag

/-!
# Scalar data

The data that scalars stand for under their tags.

## Main definitions

* `Yaml.Scalar` : the data of scalars.
* `Yaml.Scalar.ofTagged` : the datum of a text under a tag.
* `Yaml.Scalar.sameKey` : whether two data are the same key of a mapping.
-/

namespace ResourceScript.Yaml

/-- The datum of a scalar. -/
inductive Scalar where
  | null
  | bool (b : Bool)
  | int (n : Int)
  | float (x : Binary64)
  | text (s : Text)
  | octets (bytes : List UInt8)
  | time (t : Timestamp)

namespace Scalar

/-! ### Integers -/

/-- The value of digits in a base, of which there must be some. -/
def numeral (base : Nat) (s : Text) : Except Fault Int :=
  if s.isEmpty then .error .value
  else match Text.numeralIn? base s with
    | some n => .ok n
    | none => .error .value

/-- The value of a decimal integer. -/
def decimal (s : Text) : Except Fault Int :=
  match Text.integer? s with
  | some n => .ok n
  | none => .error .value

/-- The value of an octal numeral, whose leading zero a letter may follow. -/
def octal : Text → Except Fault Int
  | '0' :: 'o' :: s => numeral 8 s
  | s => numeral 8 s

/-- The value of places in base sixty, the first one being the highest. -/
def sexagesimal (places : List Int) : Int := places.foldl (fun n d => n * 60 + d) 0

/-- The value of an unsigned integer. -/
def magnitude (s : Text) : Except Fault Int :=
  match s with
  | ['0'] => .ok 0
  | '0' :: 'b' :: digits => numeral 2 digits
  | '0' :: 'x' :: digits => numeral 16 digits
  | [] => .error .noDigits
  | '0' :: _ => octal s
  | _ => if ':' ∈ s then ((splitColons s).mapM decimal).map sexagesimal else decimal s

/-- The value of an integer. -/
def integer (s : Text) : Except Fault Int :=
  match s.filter (· != '_') with
  | [] => .error .noDigits
  | '-' :: digits => (magnitude digits).map (-·)
  | '+' :: digits => magnitude digits
  | digits => magnitude digits

/-! ### Floating-point numbers -/

/-- The value of a decimal number. -/
def real (s : Text) : Except Fault Binary64 :=
  match Binary64.ofText? s with
  | some x => .ok x
  | none => .error .value

/-- The value of places in base sixty, summed up from the last one on. -/
def sexagesimalSum (places : List Binary64) : Binary64 :=
  (places.reverse.foldl (fun (sum, unit) d => (sum.add (d.scale unit), unit * 60))
    (Binary64.zero false, 1)).1

/-- The value of an unsigned floating-point number. -/
def unsignedReal (s : Text) : Except Fault Binary64 :=
  if s = ".inf".toList then .ok (.infinity false)
  else if s = ".nan".toList then .ok (.nan false)
  else if ':' ∈ s then ((splitColons s).mapM real).map sexagesimalSum
  else real s

/-- The value of a floating-point number. -/
def floating (s : Text) : Except Fault Binary64 :=
  match Text.lowerCase (s.filter (· != '_')) with
  | [] => .error .noDigits
  | '-' :: digits => (unsignedReal digits).map (·.negate)
  | '+' :: digits => unsignedReal digits
  | digits => unsignedReal digits

/-! ### Truth values, times and octets -/

/-- The truth value of a word. -/
def truth (s : Text) : Except Fault Bool :=
  match truthWords.lookup (Text.lowerCase s) with
  | some b => .ok b
  | none => .error .word

/-- The number of days of a month. -/
def daysIn (year month : Nat) : Nat :=
  if month = 2 then
    if year % 4 = 0 ∧ (year % 100 ≠ 0 ∨ year % 400 = 0) then 29 else 28
  else if month = 4 ∨ month = 6 ∨ month = 9 ∨ month = 11 then 30
  else 31

/-- Whether a date and time exist. -/
def isPossible (t : Timestamp) : Bool :=
  1 ≤ t.year && 1 ≤ t.month && t.month ≤ 12 && 1 ≤ t.day && t.day ≤ daysIn t.year t.month &&
    (match t.time with
      | none => true
      | some (h, m, s) => h < 24 && m < 60 && s < 60) &&
    match t.offset with
    | some (some (_, h, m)) => h * 60 + m < 24 * 60
    | _ => true

/-- The date or time of a text. -/
def timestamp (s : Text) : Except Fault Timestamp :=
  match timestampOf? s with
  | none => .error .time
  | some t => if isPossible t then .ok t else .error .value

/-- The value of a digit in base sixty-four. -/
def digit64? (c : Char) : Option Nat :=
  if 'A' ≤ c ∧ c ≤ 'Z' then some (c.toNat - 65)
  else if 'a' ≤ c ∧ c ≤ 'z' then some (c.toNat - 71)
  else if '0' ≤ c ∧ c ≤ '9' then some (c.toNat + 4)
  else if c = '+' then some 62
  else if c = '/' then some 63
  else none

/-- Decodes octets in base sixty-four.  `place` counts the digits of the current group, `carry`
holds the bits that are left, and `pads` counts the padding signs since the last digit.  Other
characters are passed over. -/
def octetsFrom (place carry pads : Nat) : Text → Except Fault (List UInt8)
  | [] => if place = 0 then .ok [] else .error .node
  | c :: s =>
    if c = '=' then
      if 2 ≤ place then
        if 4 ≤ place + pads + 1 then .ok [] else octetsFrom place carry (pads + 1) s
      else octetsFrom place carry pads s
    else match digit64? c with
      | none => octetsFrom place carry pads s
      | some d =>
        let put (b : Nat) (rest : Except Fault (List UInt8)) :=
          rest.map (UInt8.ofNat b :: ·)
        match place with
        | 0 => octetsFrom 1 d 0 s
        | 1 => put (carry * 4 + d / 16) (octetsFrom 2 (d % 16) 0 s)
        | 2 => put (carry * 16 + d / 4) (octetsFrom 3 (d % 4) 0 s)
        | _ => put (carry * 64 + d) (octetsFrom 0 0 0 s)

/-- The octets of a text in base sixty-four. -/
def octetsOf (s : Text) : Except Fault (List UInt8) :=
  if s.all (·.toNat < 0x80) then octetsFrom 0 0 0 s else .error .node

/-! ### The datum of a scalar -/

/-- The datum of a text under the tag of a scalar. -/
def ofTagged (tag : Tag) (s : Text) : Except Fault Scalar :=
  match tag with
  | .null => .ok .null
  | .bool => (truth s).map .bool
  | .int => (integer s).map .int
  | .float => (floating s).map .float
  | .binary => (octetsOf s).map .octets
  | .timestamp => (timestamp s).map .time
  | .text => .ok (.text s)
  | _ => .error .node

/-- The integer that a number is equal to. -/
def toInt? : Scalar → Option Int
  | bool b => some (if b then 1 else 0)
  | int n => some n
  | float x => x.toInt?
  | _ => none

/-- Whether two data are the same key.  Numbers are compared by value. -/
def sameKey (a b : Scalar) : Bool :=
  match a.toInt?, b.toInt? with
  | some m, some n => m == n
  | none, none =>
    match a, b with
    | null, null => true
    | float x, float y => x == y && !(x == .nan x.isNegative)
    | text s, text t => s == t
    | octets s, octets t => s == t
    | time s, time t => s == t
    | _, _ => false
  | _, _ => false

end Scalar

end ResourceScript.Yaml

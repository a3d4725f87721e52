import ResourceScript.Text.Numeral
import ResourceScript.Yaml.Fault
import ResourceScript.Yaml.Token.Plain

/-!
# Quoted scalars

Between single quotes a quote is written twice.  Between double quotes a backslash begins an
escape sequence.  Line breaks are folded in both.

## Main definitions

* `Yaml.Quoted.escapedChar?`, `Yaml.Quoted.charOfNumber` : the characters of escape sequences.
* `Yaml.Quoted.read` : a quoted scalar.
-/

namespace ResourceScript.Yaml.Quoted

/-- The character that an escape sequence of one letter stands for. -/
def escapedChar? : Char → Option Char
  | '0' => some '\x00'
  | 'a' => some '\x07'
  | 'b' => some '\x08'
  | 't' => some '\t'
  | '\t' => some '\t'
  | 'n' => some '\n'
  | 'v' => some '\x0b'
  | 'f' => some '\x0c'
  | 'r' => some '\r'
  | 'e' => some '\x1b'
  | ' ' => some ' '
  | '\x22' => some '\x22'
  | '\\' => some '\\'
  | '/' => some '/'
  | 'N' => some (Char.ofNat 0x85)
  | '_' => some (Char.ofNat 0xa0)
  | 'L' => some (Char.ofNat 0x2028)
  | 'P' => some (Char.ofNat 0x2029)
  | _ => none

/-- The number of hexadecimal digits after a letter. -/
def digitCount? : Char → Option Nat
  | 'x' => some 2
  | 'u' => some 4
  | 'U' => some 8
  | _ => none

/-- The character with a number.  A surrogate is no character and is replaced. -/
def charOfNumber (n : Nat) : Except Fault Char :=
  if 0x80000000 ≤ n then .error .oversized
  else if 0x10ffff < n then .error .value
  else if n.isValidChar then .ok (Char.ofNat n)
  else .ok (Char.ofNat 0xfffd)

/-- Collects line breaks and passes over the blanks before them.  A document marker must not
follow a break. -/
def breaks : Nat → Cursor → Text → Except Fault (Text × Cursor)
  | 0, c, found => .ok (found, c)
  | n + 1, c, found =>
    if c.atMarker then .error .token
    else
      let c := c.skip fun ch => ch == ' ' || ch == '\t'
      if isBreak c.head then
        let (b, c) := c.takeBreak
        breaks n c (found ++ b)
      else .ok (found, c)

/-- The text of an escape sequence; the cursor stands after the backslash. -/
def escape (c : Cursor) : Except Fault (Text × Cursor) :=
  match escapedChar? c.head with
  | some ch => .ok ([ch], c.step)
  | none =>
    match digitCount? c.head with
    | some count =>
      let digits := c.step.rest.take count
      if digits.length < count then .error .token
      else match Text.numeralIn? 16 digits with
        | none => .error .token
        | some n => (charOfNumber n).map fun ch => ([ch], c.step.advance count)
    | none =>
      if isBreak c.head then breaks (c.rest.length + 1) c.takeBreak.2 []
      else .error .token

/-- Whether a character interrupts a run of characters between quotes. -/
def interrupts (c : Char) : Bool := c == '\x27' || c == '\x22' || c == '\\' || isGap c

/-- Reads up to the next gap or the closing quote. -/
def run (double : Bool) : Nat → Cursor → Text → Except Fault (Text × Cursor)
  | 0, c, found => .ok (found, c)
  | n + 1, c, found =>
    let (plain, c) := c.takeRun (!interrupts ·)
    let found := found ++ plain
    let ch := c.head
    if !double && ch == '\x27' && c.peek 1 == '\x27' then
      run double n (c.advance 2) (found ++ ['\x27'])
    else if (double && ch == '\x27') || (!double && (ch == '\x22' || ch == '\\')) then
      run double n c.step (found ++ [ch])
    else if double && ch == '\\' then
      match escape c.step with
      | .error f => .error f
      | .ok (s, c) => run double n c (found ++ s)
    else .ok (found, c)

/-- Reads the gap between two runs, folded. -/
def gap (c : Cursor) : Except Fault (Text × Cursor) :=
  let (blanks, c) := c.takeRun fun ch => ch == ' ' || ch == '\t'
  if c.rest.isEmpty then .error .token
  else if isBreak c.head then
    let (first, c) := c.takeBreak
    (breaks (c.rest.length + 1) c []).map fun (further, c) => (Plain.foldBreaks first further, c)
  else .ok (blanks, c)

/-- Reads runs and gaps up to the closing quote. -/
def readFrom (double : Bool) (quote : Char) : Nat → Cursor → Text → Except Fault (Text × Cursor)
  | 0, _, _ => .error .token
  | n + 1, c, found =>
    match run double (c.rest.length + 1) c found with
    | .error f => .error f
    | .ok (found, c) =>
      if c.head = quote then .ok (found, c.step)
      else match gap c with
        | .error f => .error f
        | .ok (s, c) => readFrom double quote n c (found ++ s)

/-- Reads a quoted scalar; the cursor stands at the opening quote. -/
def read (c : Cursor) : Except Fault (Text × Cursor) :=
  readFrom (c.head == '\x22') c.head (c.rest.length + 1) c.step []

end ResourceScript.Yaml.Quoted

import ResourceScript.Text.Numeral
import ResourceScript.Yaml.Fault
import ResourceScript.Yaml.Cursor

/-!
# Block scalars

A block scalar consists of the lines that are indented deeper than the collection that it stands
in.  Its header may fix the indentation and tells what becomes of the line breaks at the end.
Folded scalars join lines that begin with no blank.

## Main definitions

* `Yaml.BlockScalar.Chomping`, `Yaml.BlockScalar.header` : the header.
* `Yaml.BlockScalar.read` : a block scalar.
-/

namespace ResourceScript.Yaml.BlockScalar

/-- What becomes of the line breaks at the end: the last one is dropped, or it is kept, or all of
them are kept. -/
inductive Chomping where
  | strip
  | clip
  | keep
  deriving DecidableEq

/-- Reads a sign for the treatment of line breaks. -/
def chomping? : Char → Option Chomping
  | '+' => some .keep
  | '-' => some .strip
  | _ => none

/-- Reads a digit for the indentation, which must not be zero. -/
def increment (c : Cursor) : Except Fault (Option Nat × Cursor) :=
  if !Text.isDigit c.head then .ok (none, c)
  else if c.head = '0' then .error .token
  else .ok (some (c.head.toNat - 48), c.step)

/-- Reads the header of a block scalar up to the end of its indicators. -/
def header (c : Cursor) : Except Fault (Chomping × Option Nat × Cursor) := do
  let (chomping, indentation, c) ← match chomping? c.head with
    | some chomping => do
      let (n, c) ← increment c.step
      pure (chomping, n, c)
    | none => do
      let (n, c) ← increment c
      match n, chomping? c.head with
      | some _, some chomping => pure (chomping, n, c.step)
      | _, _ => pure (.clip, n, c)
  if isSpaceEnd c.head then return (chomping, indentation, c) else .error .token

/-- Passes over blanks and a comment up to the next line. -/
def ignoredLine (c : Cursor) : Except Fault Cursor :=
  let c := c.skip (· == ' ')
  let c := if c.head = '#' then c.skip (!isLineEnd ·) else c
  if isLineEnd c.head then .ok c.takeBreak.2 else .error .token

/-- Collects the breaks of the empty lines at the beginning, and the greatest column that blanks
reach. -/
def leadingLines : Nat → Cursor → (breaks : Text) → (column : Nat) → Text × Nat × Cursor
  | 0, c, breaks, column => (breaks, column, c)
  | n + 1, c, breaks, column =>
    if c.head = ' ' then leadingLines n c.step breaks (max column c.step.column)
    else if isBreak c.head then
      let (b, c) := c.takeBreak
      leadingLines n c (breaks ++ b) column
    else (breaks, column, c)

/-- Passes over blanks up to a column. -/
def skipIndent (indent : Nat) (c : Cursor) : Cursor :=
  c.advance (min (c.rest.takeWhile (· == ' ')).length (indent - c.column))

/-- Collects the breaks of empty lines, passing over the indentation. -/
def emptyLines (indent : Nat) : Nat → Cursor → Text → Text × Cursor
  | 0, c, breaks => (breaks, skipIndent indent c)
  | n + 1, c, breaks =>
    let c := skipIndent indent c
    if isBreak c.head then
      let (b, c) := c.takeBreak
      emptyLines indent n c (breaks ++ b)
    else (breaks, c)

/-- Whether a character is a blank or a tab. -/
def isBlankChar (c : Char) : Bool := c == ' ' || c == '\t'

/-- Reads the lines of a block scalar.  `breaks` are the line breaks before the next line, and
`last` is the one that ends the line before them. -/
def lines (folded : Bool) (indent : Nat) : Nat → Cursor → (found breaks last : Text) →
    Text × Text × Text × Cursor
  | 0, c, found, breaks, last => (found, breaks, last, c)
  | n + 1, c, found, breaks, last =>
    if c.column != indent || c.rest.isEmpty then (found, breaks, last, c)
    else
      let startsPlain := !isBlankChar c.head
      let (line, c) := c.takeRun (!isLineEnd ·)
      let found := found ++ breaks ++ line
      let (last, c) := c.takeBreak
      let (breaks, c) := emptyLines indent c.rest.length c []
      if c.column != indent || c.rest.isEmpty then (found, breaks, last, c)
      else
        let joins := folded && last == ['\n'] && startsPlain && !isBlankChar c.head
        let between := if !joins then last else if breaks.isEmpty then [' '] else []
        lines folded indent n c (found ++ between) breaks last

/-- Reads a block scalar in a collection with the given indentation; the cursor stands at its
first indicator. -/
def read (folded : Bool) (outer : Int) (c : Cursor) : Except Fault (Text × Cursor) := do
  let (chomping, indentation, c) ← header c.step
  let c ← ignoredLine c
  let least := max (outer + 1) 1 |>.toNat
  let (breaks, indent, c) := match indentation with
    | none =>
      let (breaks, column, c) := leadingLines c.rest.length c [] 0
      (breaks, max least column, c)
    | some n =>
      let indent := least + n - 1
      let (breaks, c) := emptyLines indent c.rest.length c []
      (breaks, indent, c)
  let (found, breaks, last, c) := lines folded indent (c.rest.length + 1) c [] breaks []
  let tail := match chomping with
    | .strip => []
    | .clip => last
    | .keep => last ++ breaks
  return (found ++ tail, c)

end ResourceScript.Yaml.BlockScalar

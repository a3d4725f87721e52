import ResourceScript.Text.Numeral
import ResourceScript.Text.Octets
import ResourceScript.Yaml.Fault
import ResourceScript.Yaml.Cursor
import ResourceScript.Yaml.Token.Block

/-!
# Anchors, tags and directives

The names that a document gives to nodes and tags, and the directives before it.

## Main definitions

* `Yaml.Name.anchor` : the name of an anchor or an alias.
* `Yaml.Name.tag` : a tag, as a handle and a suffix.
* `Yaml.Directive`, `Yaml.Name.directive` : a directive.
-/

namespace ResourceScript.Yaml

/-- A directive before a document: its version, the meaning of a tag handle, or an unknown one. -/
inductive Directive where
  | version (major minor : Nat)
  | handle (handle lead : Text)
  | unknown
  deriving DecidableEq

namespace Name

/-- The characters of names. -/
def isNameChar (c : Char) : Bool := c.isAlphanum || c == '-' || c == '_'

/-- The characters of tags. -/
def isTagChar (c : Char) : Bool :=
  c.isAlphanum || "-;/?:@&=+$,_.!~*\x27()[]%".toList.contains c

/-- Reads the name of an anchor or an alias; the cursor stands at the indicator. -/
def anchor (c : Cursor) : Except Fault (Text × Cursor) :=
  let (name, c) := c.step.takeRun isNameChar
  if name.isEmpty then .error .token
  else if isGap c.head || "?:,]\x7d%@\x60".toList.contains c.head then .ok (name, c)
  else .error .token

/-- Reads octets that are written as hexadecimal numbers after percent signs. -/
def percentOctets : Nat → Cursor → List UInt8 → Except Fault (List UInt8 × Cursor)
  | 0, c, found => .ok (found, c)
  | n + 1, c, found =>
    if c.head ≠ '%' then .ok (found, c)
    else match c.step.rest with
      | d :: e :: _ =>
        match Text.numeralIn? 16 [d, e] with
        | some b => percentOctets n (c.advance 3) (found ++ [UInt8.ofNat b])
        | none => .error .token
      | _ => .error .token

/-- Reads the characters of a tag, of which there must be some. -/
def tagText : Nat → Cursor → Text → Except Fault (Text × Cursor)
  | 0, c, found => .ok (found, c)
  | n + 1, c, found =>
    let (plain, c) := c.takeRun fun ch => isTagChar ch && ch != '%'
    let found := found ++ plain
    if c.head = '%' then
      match percentOctets (c.rest.length + 1) c [] with
      | .error f => .error f
      | .ok (octets, c) =>
        match Text.ofOctets? octets with
        | some s => tagText n c (found ++ s)
        | none => .error .token
    else if found.isEmpty then .error .token
    else .ok (found, c)

/-- Reads the characters of a tag. -/
def tagSuffix (c : Cursor) : Except Fault (Text × Cursor) := tagText (c.rest.length + 1) c []

/-- Reads a tag handle: an exclamation mark, or a name between two of them. -/
def handle (c : Cursor) : Except Fault (Text × Cursor) :=
  if c.head ≠ '!' then .error .token
  else if c.peek 1 = ' ' then .ok (['!'], c.step)
  else
    let (name, after) := c.step.takeRun isNameChar
    if after.head = '!' then .ok ('!' :: (name ++ ['!']), after.step) else .error .token

/-- Reads a tag as an optional handle and a suffix; the cursor stands at its exclamation mark. -/
def tag (c : Cursor) : Except Fault (Option Text × Text × Cursor) := do
  let next := c.peek 1
  let (found, suffix, c) ←
    if next = '<' then do
      let (suffix, c) ← tagSuffix (c.advance 2)
      if c.head = '>' then pure (none, suffix, c.step) else .error .token
    else if isGap next then pure (none, ['!'], c.step)
    else do
      let word := (c.rest.drop 1).takeWhile (!isSpaceEnd ·)
      let (h, c) ← if word.contains '!' then handle c else pure (['!'], c.step)
      let (suffix, c) ← tagSuffix c
      pure (some h, suffix, c)
  if isSpaceEnd c.head then return (found, suffix, c) else .error .token

/-- Reads a number. -/
def number (c : Cursor) : Except Fault (Nat × Cursor) :=
  let (digits, c) := c.takeRun Text.isDigit
  if digits.isEmpty then .error .token else .ok (Text.digitsValue digits, c)

/-- Reads a version: two numbers with a point between. -/
def version (c : Cursor) : Except Fault (Directive × Cursor) := do
  let (major, c) ← number c
  if c.head ≠ '.' then .error .token
  else
    let (minor, c) ← number c.step
    if isSpaceEnd c.head then return (.version major minor, c) else .error .token

/-- Reads the meaning of a tag handle. -/
def handleMeaning (c : Cursor) : Except Fault (Directive × Cursor) := do
  let (h, c) ← handle c
  if c.head ≠ ' ' then .error .token
  else
    let (lead, c) ← tagSuffix (c.skip (· == ' '))
    if isSpaceEnd c.head then return (.handle h lead, c) else .error .token

/-- Reads a directive; the cursor stands at its percent sign. -/
def directive (c : Cursor) : Except Fault (Directive × Cursor) := do
  let (name, c) := c.step.takeRun isNameChar
  if name.isEmpty || !isSpaceEnd c.head then .error .token
  else
    let value := c.skip (· == ' ')
    let (d, c) ←
      if name = "YAML".toList then version value
      else if name = "TAG".toList then handleMeaning value
      else pure (.unknown, c.skip (!isLineEnd ·))
    return (d, ← BlockScalar.ignoredLine c)

end Name

end ResourceScript.Yaml

import ResourceScript.Text.Basic

/-!
# Reading positions

A cursor stands at a character of a text and knows its index, line and column.  Line breaks are
the line feed, the next-line character and the two separators; carriage returns do not occur,
since line ends are normalized before.  The end of the text reads as the null character, which no
document holds.

## Main definitions

* `Yaml.Cursor` : a position with what follows it.
* `Yaml.Cursor.head`, `Yaml.Cursor.peek` : the characters that follow.
* `Yaml.Cursor.advance` : moves on.
* `Yaml.Cursor.takeBreak` : passes over a line break.
* `Yaml.Cursor.atMarker` : whether a document marker follows.

## Main results

* `Yaml.Cursor.rest_advance` : advancing drops characters.
-/

namespace ResourceScript.Yaml

/-- Stands for the end of a text. -/
def endOfText : Char := '\x00'

/-- The characters that end a line. -/
def isBreak (c : Char) : Bool :=
  c == '\n' || c.val == 0x85 || c.val == 0x2028 || c.val == 0x2029

/-- A line break or the end of the text. -/
def isLineEnd (c : Char) : Bool := isBreak c || c == endOfText

/-- A blank, a line break or the end of the text. -/
def isSpaceEnd (c : Char) : Bool := c == ' ' || isLineEnd c

/-- A blank, a tab, a line break or the end of the text. -/
def isGap (c : Char) : Bool := c == '\t' || isSpaceEnd c

/-- A position in a text: what follows it, and where it is. -/
structure Cursor where
  rest : Text
  index : Nat := 0
  line : Nat := 0
  column : Nat := 0

namespace Cursor

/-- The next character. -/
def head (c : Cursor) : Char := c.rest.headD endOfText

/-- The character after the next `n` ones. -/
def peek (c : Cursor) (n : Nat) : Char := c.rest.getD n endOfText

/-- Passes over one character.  A byte order mark takes no column. -/
def step (c : Cursor) : Cursor :=
  match c.rest with
  | [] => c
  | ch :: rest =>
    if isBreak ch then ⟨rest, c.index + 1, c.line + 1, 0⟩
    else if ch.val = 0xfeff then ⟨rest, c.index + 1, c.line, c.column⟩
    else ⟨rest, c.index + 1, c.line, c.column + 1⟩

/-- Passes over `n` characters. -/
def advance : Nat → Cursor → Cursor
  | 0, c => c
  | n + 1, c => advance n c.step

theorem rest_step (c : Cursor) : c.step.rest = c.rest.drop 1 := by
  unfold step
  split
  · simp_all
  · split
    · simp_all
    · split <;> simp_all

/-- Advancing drops characters. -/
theorem rest_advance (n : Nat) (c : Cursor) : (advance n c).rest = c.rest.drop n := by
  induction n generalizing c with
  | zero => rfl
  | succ n ih => simp [advance, ih, rest_step]

/-- Takes the longest run of characters of a class. -/
def takeRun (p : Char → Bool) (c : Cursor) : Text × Cursor :=
  let run := c.rest.takeWhile p
  (run, c.advance run.length)

/-- Passes over the longest run of characters of a class. -/
def skip (p : Char → Bool) (c : Cursor) : Cursor := (c.takeRun p).2

/-- Takes a line break: the separators as they are, the others as a line feed. -/
def takeBreak (c : Cursor) : Text × Cursor :=
  if !isBreak c.head then ([], c)
  else if c.head.val = 0x2028 ∨ c.head.val = 0x2029 then ([c.head], c.step)
  else (['\n'], c.step)

/-- Whether three equal characters and a gap follow. -/
def atTriple (mark : Char) (c : Cursor) : Bool :=
  [mark, mark, mark].isPrefixOf c.rest && isGap (c.peek 3)

/-- Whether a document marker follows. -/
def atMarker (c : Cursor) : Bool := c.atTriple '-' || c.atTriple '.'

end Cursor

end ResourceScript.Yaml

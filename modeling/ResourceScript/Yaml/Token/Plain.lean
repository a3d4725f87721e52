import ResourceScript.Yaml.Cursor

/-!
# Plain scalars

A plain scalar is written without quotes.  It ends where a mapping value, a comment, a flow
indicator or a less indented line begins.  Line breaks inside of it are folded: a single one
becomes a blank, and of several ones the first is dropped.

## Main definitions

* `Yaml.Plain.runOf` : the characters up to the next gap or indicator.
* `Yaml.Plain.gap` : the folded gap between two runs.
* `Yaml.Plain.read` : a plain scalar.
-/

namespace ResourceScript.Yaml.Plain

/-- Whether a colon before the given text ends a plain scalar. -/
def endsKey (flow : Bool) (s : Text) : Bool :=
  let next := s.headD endOfText
  isGap next || (flow && [',', '[', ']', '\x7b', '\x7d'].contains next)

/-- The indicators that end a plain scalar in a flow collection. -/
def isFlowIndicator (c : Char) : Bool := [',', '?', '[', ']', '\x7b', '\x7d'].contains c

/-- The characters of a plain scalar up to the next gap or indicator. -/
def runOf (flow : Bool) : Text → Text
  | [] => []
  | c :: s =>
    if isGap c || (c == ':' && endsKey flow s) || (flow && isFlowIndicator c) then []
    else c :: runOf flow s

/-- Collects the line breaks of empty lines and passes over indentation.  There is no result when
a document marker follows a break.  The number bounds the characters that are looked at. -/
def emptyLines : Nat → Cursor → Text → Option Text × Cursor
  | 0, c, breaks => (some breaks, c)
  | n + 1, c, breaks =>
    if c.head = ' ' then emptyLines n c.step breaks
    else if isBreak c.head then
      let (b, c) := c.takeBreak
      if c.atMarker then (none, c) else emptyLines n c (breaks ++ b)
    else (some breaks, c)

/-- A line break followed by further ones, folded. -/
def foldBreaks (first further : Text) : Text :=
  if first ≠ ['\n'] then first ++ further
  else if further.isEmpty then [' ']
  else further

/-- The gap between two runs, and whether it holds a line break.  The gap is empty when a document
marker follows. -/
def gap (c : Cursor) : Text × Bool × Cursor :=
  let (blanks, c) := c.takeRun (· == ' ')
  if isBreak c.head then
    let (first, c) := c.takeBreak
    if c.atMarker then ([], true, c)
    else match emptyLines c.rest.length c [] with
      | (none, c) => ([], true, c)
      | (some further, c) => (foldBreaks first further, true, c)
  else (blanks, false, c)

/-- Reads the runs of a plain scalar.  `before` is the gap before the next run, and `broken` tells
whether it holds a line break. -/
def readFrom (flow : Bool) (indent : Int) : Nat → Cursor → (read before : Text) → (broken : Bool) →
    Text × Bool × Cursor
  | 0, c, read, _, broken => (read, broken, c)
  | n + 1, c, read, before, broken =>
    if c.head = '#' then (read, broken, c)
    else
      let run := runOf flow c.rest
      if run.isEmpty then (read, broken, c)
      else
        let read := read ++ before ++ run
        let (between, broken, c) := gap (c.advance run.length)
        if between.isEmpty || c.head == '#' || (!flow && c.column < indent) then (read, broken, c)
        else readFrom flow indent n c read between broken

/-- Reads a plain scalar in a collection with the given indentation.  Besides the scalar, it tells
whether a line break follows it. -/
def read (flow : Bool) (indent : Int) (c : Cursor) : Text × Bool × Cursor :=
  readFrom flow (indent + 1) (c.rest.length + 1) c [] [] false

end ResourceScript.Yaml.Plain

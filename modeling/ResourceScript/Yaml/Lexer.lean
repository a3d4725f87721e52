import ResourceScript.Yaml.Token.Basic
import ResourceScript.Yaml.Token.Quoted

/-!
# From text to tokens

Tokens are read on demand, since what comes first, a wrong character or a wrong token, decides
which fault is noticed.  Indentation opens and closes block collections.  A mapping key without a
sign of its own is known as a key only when the colon after it is met: up to then its place in the
queue is remembered, and no token from there on may leave the queue.

## Main definitions

* `Yaml.Lexer` : the state of reading tokens.
* `Yaml.Lexer.fetch` : reads at least one token into the queue.
* `Yaml.Lexer.peek`, `Yaml.Lexer.pop` : the first token that may leave the queue.
-/

namespace ResourceScript.Yaml

/-- A place at which a mapping key without sign may have begun.  A required key begins a line of a
block mapping. -/
structure PossibleKey where
  number : Nat
  required : Bool
  index : Nat
  line : Nat
  column : Nat

/-- The state of reading tokens: the queue with the number of tokens that have left it, the depth
of flow collections, the indentation of the block collections, whether a key may begin here, and
the possible keys by the depth at which they began. -/
structure Lexer where
  cursor : Cursor
  queue : List Token := []
  taken : Nat := 1
  depth : Int := 0
  indent : Int := -1
  indents : List Int := []
  keyAllowed : Bool := true
  keys : List (Int × PossibleKey) := []
  finished : Bool := false

namespace Lexer

/-- The state before the first token. -/
def ofText (s : Text) : Lexer := { cursor := { rest := s } }

/-- Whether flow collections are open. -/
def inFlow (l : Lexer) : Bool := l.depth != 0

/-- Appends tokens to the queue. -/
def push (l : Lexer) (ts : List Token) : Lexer := { l with queue := l.queue ++ ts }

/-- Passes over `n` characters. -/
def advance (l : Lexer) (n : Nat) : Lexer := { l with cursor := l.cursor.advance n }

/-! ### Possible keys -/

/-- Whether a possible key can be one no more: it must stand on one line, not too far back. -/
def isStale (l : Lexer) (k : PossibleKey) : Bool :=
  k.line != l.cursor.line || k.index + 1024 < l.cursor.index

/-- Forgets the keys that can be keys no more, of which none may be required. -/
def dropStaleKeys (l : Lexer) : Except Fault Lexer :=
  if l.keys.any fun (_, k) => l.isStale k && k.required then .error .token
  else .ok { l with keys := l.keys.filter fun (_, k) => !l.isStale k }

/-- Forgets the possible key at the current depth, which must not be required. -/
def dropKey (l : Lexer) : Except Fault Lexer :=
  match l.keys.lookup l.depth with
  | none => .ok l
  | some k =>
    if k.required then .error .token
    else .ok { l with keys := l.keys.filter (·.1 != l.depth) }

/-- Remembers that a key may begin here. -/
def noteKey (l : Lexer) : Except Fault Lexer :=
  if !l.keyAllowed then .ok l
  else (l.dropKey).map fun l =>
    let key : PossibleKey := {
      number := l.taken + l.queue.length
      required := !l.inFlow && l.indent == l.cursor.column
      index := l.cursor.index, line := l.cursor.line, column := l.cursor.column }
    { l with keys := (l.depth, key) :: l.keys }

/-- Whether the first token of the queue may turn out to follow the sign of a key. -/
def isWaiting (l : Lexer) : Bool := l.keys.any fun (_, k) => k.number == l.taken

/-! ### Indentation -/

/-- Closes the block collections that are indented deeper than a column. -/
def closeBlocks (column indent : Int) : List Int → Int × List Int × List Token
  | [] => (indent, [], [])
  | outer :: indents =>
    if indent > column then
      let (indent, indents, ends) := closeBlocks column outer indents
      (indent, indents, .blockEnd :: ends)
    else (indent, outer :: indents, [])

/-- Closes the block collections that end before a column.  In flow collections indentation does
not matter. -/
def unwind (l : Lexer) (column : Int) : Lexer :=
  if l.inFlow then l
  else
    let (indent, indents, ends) := closeBlocks column l.indent l.indents
    { l with indent, indents, queue := l.queue ++ ends }

/-- Opens a block collection at a column, unless one is open there. -/
def openBlock (l : Lexer) (column : Int) : Bool × Lexer :=
  if l.indent < column then (true, { l with indents := l.indent :: l.indents, indent := column })
  else (false, l)

/-- Opens a block collection at the current column and queues its beginning. -/
def openHere (l : Lexer) (start : Token) : Lexer :=
  match l.openBlock l.cursor.column with
  | (true, l) => l.push [start]
  | (false, l) => l

/-! ### Between tokens -/

/-- Passes over blanks, comments and line breaks.  At the beginning of a line a key may begin. -/
def skipGaps : Nat → Lexer → Lexer
  | 0, l => l
  | n + 1, l =>
    let c := l.cursor.skip (· == ' ')
    let c := if c.head = '#' then c.skip (!isLineEnd ·) else c
    if isBreak c.head then
      skipGaps n { l with
        cursor := c.takeBreak.2, keyAllowed := l.keyAllowed || !l.inFlow }
    else { l with cursor := c }

/-- Passes over a byte order mark at the very beginning. -/
def skipMark (l : Lexer) : Lexer :=
  if l.cursor.index = 0 ∧ l.cursor.head.val = 0xfeff then l.advance 1 else l

/-! ### Single tokens -/

/-- The end of the stream closes everything. -/
def fetchEnd (l : Lexer) : Except Fault Lexer :=
  ((l.unwind (-1)).dropKey).map fun l =>
    { l.push [.streamEnd] with keyAllowed := false, keys := [], finished := true }

/-- A directive or a document marker closes all block collections. -/
def fetchOutside (l : Lexer) (read : Cursor → Except Fault (Token × Cursor)) :
    Except Fault Lexer := do
  let l ← (l.unwind (-1)).dropKey
  let (t, c) ← read l.cursor
  return { l.push [t] with cursor := c, keyAllowed := false }

/-- The opening bracket of a flow collection. -/
def fetchFlowStart (l : Lexer) (t : Token) : Except Fault Lexer :=
  l.noteKey.map fun l => { (l.push [t]).advance 1 with depth := l.depth + 1, keyAllowed := true }

/-- The closing bracket of a flow collection. -/
def fetchFlowEnd (l : Lexer) (t : Token) : Except Fault Lexer :=
  l.dropKey.map fun l => { (l.push [t]).advance 1 with depth := l.depth - 1, keyAllowed := false }

/-- The comma between the entries of a flow collection. -/
def fetchFlowEntry (l : Lexer) : Except Fault Lexer :=
  l.dropKey.map fun l => { (l.push [.flowEntry]).advance 1 with keyAllowed := true }

/-- The sign of an entry of a block sequence. -/
def fetchBlockEntry (l : Lexer) : Except Fault Lexer := do
  let l ←
    if l.inFlow then pure l
    else if !l.keyAllowed then .error .token
    else pure (l.openHere .blockSequenceStart)
  let l ← l.dropKey
  return { (l.push [.blockEntry]).advance 1 with keyAllowed := true }

/-- The sign of a mapping key. -/
def fetchKey (l : Lexer) : Except Fault Lexer := do
  let l ←
    if l.inFlow then pure l
    else if !l.keyAllowed then .error .token
    else pure (l.openHere .blockMappingStart)
  let l ← l.dropKey
  return { (l.push [.key]).advance 1 with keyAllowed := !l.inFlow }

/-- Inserts a token into the queue before the token with a number. -/
def insertAt (l : Lexer) (number : Nat) (t : Token) : Lexer :=
  { l with queue := l.queue.insertIdx (number - l.taken) t }

/-- The colon after a possible key turns it into a key. -/
def confirmKey (l : Lexer) (k : PossibleKey) : Lexer :=
  let l := { l with keys := l.keys.filter (·.1 != l.depth) }
  let l := l.insertAt k.number .key
  let l :=
    if l.inFlow then l
    else match l.openBlock k.column with
      | (true, l) => l.insertAt k.number .blockMappingStart
      | (false, l) => l
  { l with keyAllowed := false }

/-- The colon before a mapping value. -/
def fetchValue (l : Lexer) : Except Fault Lexer := do
  let l ← match l.keys.lookup l.depth with
    | some k => pure (l.confirmKey k)
    | none =>
      if l.inFlow then ({ l with keyAllowed := false }).dropKey
      else if !l.keyAllowed then .error .token
      else ({ l.openHere .blockMappingStart with keyAllowed := true }).dropKey
  return (l.push [.value]).advance 1

/-- A token that may begin a key. -/
def fetchNamed (l : Lexer) (read : Cursor → Except Fault (Token × Cursor)) :
    Except Fault Lexer := do
  let l ← l.noteKey
  let (t, c) ← read l.cursor
  return { l.push [t] with cursor := c, keyAllowed := false }

/-- A block scalar, after which a key may begin. -/
def fetchBlockScalar (l : Lexer) (folded : Bool) : Except Fault Lexer := do
  let l ← l.dropKey
  let (s, c) ← BlockScalar.read folded l.indent l.cursor
  return { l.push [.scalar s false] with cursor := c, keyAllowed := true }

/-- A plain scalar, after which a key may begin if a line break follows. -/
def fetchPlain (l : Lexer) : Except Fault Lexer := do
  let l ← l.noteKey
  let (s, broken, c) := Plain.read l.inFlow l.indent l.cursor
  return { l.push [.scalar s true] with cursor := c, keyAllowed := broken }

/-! ### Choice of the token -/

/-- The indicators that a plain scalar does not begin with. -/
def indicators : List Char := "-?:,[]\x7b\x7d#&*!|>\x27\x22%@\x60".toList

/-- Whether a plain scalar begins here. -/
def startsPlain (l : Lexer) : Bool :=
  let ch := l.cursor.head
  (!isGap ch && !indicators.contains ch) ||
    (!isGap (l.cursor.peek 1) && (ch == '-' || (!l.inFlow && (ch == '?' || ch == ':'))))

/-- Reads the token that begins here. -/
def fetchHere (l : Lexer) : Except Fault Lexer :=
  let c := l.cursor
  let ch := c.head
  let beforeGap := isGap (c.peek 1)
  let atStart := c.column == 0
  if c.rest.isEmpty then l.fetchEnd
  else if ch = '%' ∧ atStart then
    l.fetchOutside fun c => (Name.directive c).map fun (d, c) => (.directive d, c)
  else if atStart && c.atTriple '-' then l.fetchOutside fun c => .ok (.documentStart, c.advance 3)
  else if atStart && c.atTriple '.' then l.fetchOutside fun c => .ok (.documentEnd, c.advance 3)
  else if ch = '[' then l.fetchFlowStart .flowSequenceStart
  else if ch = '\x7b' then l.fetchFlowStart .flowMappingStart
  else if ch = ']' then l.fetchFlowEnd .flowSequenceEnd
  else if ch = '\x7d' then l.fetchFlowEnd .flowMappingEnd
  else if ch = ',' then l.fetchFlowEntry
  else if ch = '-' ∧ beforeGap then l.fetchBlockEntry
  else if ch = '?' ∧ (l.inFlow ∨ beforeGap) then l.fetchKey
  else if ch = ':' ∧ (l.inFlow ∨ beforeGap) then l.fetchValue
  else if ch = '*' then l.fetchNamed fun c => (Name.anchor c).map fun (n, c) => (.alias n, c)
  else if ch = '&' then l.fetchNamed fun c => (Name.anchor c).map fun (n, c) => (.anchor n, c)
  else if ch = '!' then l.fetchNamed fun c => (Name.tag c).map fun (h, s, c) => (.tag h s, c)
  else if ch = '|' ∧ !l.inFlow then l.fetchBlockScalar false
  else if ch = '>' ∧ !l.inFlow then l.fetchBlockScalar true
  else if ch = '\x27' ∨ ch = '\x22' then
    l.fetchNamed fun c => (Quoted.read c).map fun (s, c) => (.scalar s false, c)
  else if l.startsPlain then l.fetchPlain
  else .error .token

/-- Reads at least one token into the queue. -/
def fetch (l : Lexer) : Except Fault Lexer := do
  let l := skipGaps (l.cursor.rest.length + 1) l.skipMark
  let l ← l.dropStaleKeys
  (l.unwind l.cursor.column).fetchHere

/-- Reads tokens until the first of the queue may leave it.  Each reading passes over a character
or finishes, which bounds their number. -/
def fill : Nat → Lexer → Except Fault Lexer
  | 0, l => .ok l
  | n + 1, l =>
    if l.finished then .ok l
    else if l.queue.isEmpty then l.fetch.bind (fill n)
    else do
      let l ← l.dropStaleKeys
      if l.isWaiting then l.fetch.bind (fill n) else return l

/-- The first token, and the state in which it may leave the queue.  There is none after the end
of the stream. -/
def peek (l : Lexer) : Except Fault (Option Token × Lexer) :=
  (fill (l.cursor.rest.length + 2) l).map fun l => (l.queue.head?, l)

/-- The state without the first token of the queue. -/
def pop (l : Lexer) : Lexer := { l with queue := l.queue.drop 1, taken := l.taken + 1 }

end Lexer

end ResourceScript.Yaml

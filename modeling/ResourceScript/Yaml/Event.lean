import ResourceScript.Yaml.Lexer

/-!
# From tokens to events

The events of a document: nodes that begin and end, scalars and aliases.  What may come next is a
finite state; the states in which collections go on when a node is complete are kept on a stack.

## Main definitions

* `Yaml.Event` : the events.
* `Yaml.Expectation` : what may come next.
* `Yaml.EventSource` : the state of reading events.
* `Yaml.EventSource.next` : the next event.
-/

namespace ResourceScript.Yaml

/-- An event.  A scalar tells whether its tag follows from its text. -/
inductive Event where
  | streamEnd
  | documentStart
  | documentEnd
  | alias (name : Text)
  | scalar (anchor tag : Option Text) (implicit : Bool) (s : Text)
  | sequenceStart (anchor tag : Option Text)
  | sequenceEnd
  | mappingStart (anchor tag : Option Text)
  | mappingEnd
  deriving DecidableEq

/-- What may come next. -/
inductive Expectation where
  | firstDocument
  | document
  | documentContent
  | documentEnd
  | blockNode
  | blockSequenceEntry
  | plainSequenceEntry
  | blockMappingKey
  | blockMappingValue
  | flowSequenceEntry (first : Bool)
  | flowPairKey
  | flowPairValue
  | flowPairEnd
  | flowMappingKey (first : Bool)
  | flowMappingValue
  | flowMappingNoValue
  | nothing
  deriving DecidableEq

/-- The tag handles that every document knows. -/
def standardHandles : List (Text × Text) :=
  [(['!'], ['!']), (['!', '!'], "tag:yaml.org,2002:".toList)]

/-- The state of reading events: what may come next, how the open collections go on, and the tag
handles of the document. -/
structure EventSource where
  lexer : Lexer
  expected : Expectation := .firstDocument
  pending : List Expectation := []
  handles : List (Text × Text) := standardHandles

namespace EventSource

/-- A step of reading events. -/
abbrev Reading := StateT EventSource (Except Fault)

/-- Gives up with a fault. -/
def fail {α : Type} (f : Fault) : Reading α := fun _ => .error f

/-- The next token, which stays. -/
def peek : Reading (Option Token) := fun src =>
  src.lexer.peek.map fun (t, l) => (t, { src with lexer := l })

/-- Drops the next token. -/
def drop : Reading Unit := modify fun src => { src with lexer := src.lexer.pop }

/-- Goes on with the given expectation. -/
def expect (e : Expectation) : Reading Unit := modify fun src => { src with expected := e }

/-- Remembers how the current collection goes on. -/
def later (e : Expectation) : Reading Unit :=
  modify fun src => { src with pending := e :: src.pending }

/-- Goes on with the innermost open collection. -/
def leave : Reading Unit :=
  modify fun src => { src with expected := src.pending.headD .nothing, pending := src.pending.drop 1 }

/-- The scalar that stands for an absent node. -/
def emptyScalar : Event := .scalar none none true []

/-- An absent node, after which the given expectation holds. -/
def absent (e : Expectation) : Reading Event := do
  expect e
  return emptyScalar

/-! ### Nodes -/

/-- The anchor and the tag before a node, in either order. -/
def properties : Reading (Option Text × Option (Option Text × Text)) := do
  match ← peek with
  | some (.anchor a) =>
    drop
    match ← peek with
    | some (.tag h s) => drop; return (some a, some (h, s))
    | _ => return (some a, none)
  | some (.tag h s) =>
    drop
    match ← peek with
    | some (.anchor a) => drop; return (some a, some (h, s))
    | _ => return (none, some (h, s))
  | _ => return (none, none)

/-- The tag that a handle and a suffix stand for. -/
def fullTag (tag : Option (Option Text × Text)) : Reading (Option Text) := do
  match tag with
  | none => return none
  | some (none, suffix) => return some suffix
  | some (some handle, suffix) =>
    match (← get).handles.lookup handle with
    | some lead => return some (lead ++ suffix)
    | none => fail .grammar

/-- Whether the tag of a node is left to its content. -/
def isOpenTag (tag : Option Text) : Bool := tag == none || tag == some ['!']

/-- Reads the beginning of a node.  Block collections are allowed when `block` holds, and a
sequence without indentation of its own when `unindented` holds. -/
def node (block unindented : Bool) : Reading Event := do
  match ← peek with
  | some (.alias name) => drop; leave; return .alias name
  | _ =>
    let (anchor, shortTag) ← properties
    let tag ← fullTag shortTag
    match ← peek with
    | some .blockEntry =>
      if unindented then
        expect .plainSequenceEntry
        return .sequenceStart anchor tag
      else bare anchor tag
    | some (.scalar s plain) =>
      drop; leave
      return .scalar anchor tag ((plain && tag == none) || tag == some ['!']) s
    | some .flowSequenceStart =>
      drop; expect (.flowSequenceEntry true)
      return .sequenceStart anchor tag
    | some .flowMappingStart =>
      drop; expect (.flowMappingKey true)
      return .mappingStart anchor tag
    | some .blockSequenceStart =>
      if block then
        drop; expect .blockSequenceEntry
        return .sequenceStart anchor tag
      else bare anchor tag
    | some .blockMappingStart =>
      if block then
        drop; expect .blockMappingKey
        return .mappingStart anchor tag
      else bare anchor tag
    | _ => bare anchor tag
where
  /-- A node that consists of its anchor and tag only. -/
  bare (anchor tag : Option Text) : Reading Event := do
    if anchor.isNone && tag.isNone then fail .grammar
    else
      leave
      return .scalar anchor tag (isOpenTag tag) []

/-! ### Documents -/

/-- Reads the directives before a document and sets its tag handles. -/
def directives : Nat → (version : Bool) → (handles : List (Text × Text)) → Reading Unit
  | 0, _, _ => fail .grammar
  | n + 1, version, handles => do
    match ← peek with
    | some (.directive (.version major _)) =>
      drop
      if version || major != 1 then fail .grammar else directives n true handles
    | some (.directive (.handle h lead)) =>
      drop
      if (handles.lookup h).isSome then fail .grammar
      else directives n version (handles ++ [(h, lead)])
    | some (.directive .unknown) => drop; directives n version handles
    | _ => modify fun src => { src with handles := handles ++ standardHandles }

/-- Passes over further document ends. -/
def skipDocumentEnds : Nat → Reading Unit
  | 0 => fail .grammar
  | n + 1 => do
    match ← peek with
    | some .documentEnd => drop; skipDocumentEnds n
    | _ => return ()

/-- A bound for the number of tokens that can still be read. -/
def bound : Reading Nat := do
  let l := (← get).lexer
  return 4 * (l.cursor.rest.length + l.queue.length + 2)

/-- Reads the beginning of a document with a marker, or the end of the stream. -/
def document : Reading Event := do
  skipDocumentEnds (← bound)
  match ← peek with
  | some .streamEnd =>
    drop; expect .nothing
    return .streamEnd
  | _ =>
    directives (← bound) false []
    match ← peek with
    | some .documentStart =>
      drop; later .documentEnd; expect .documentContent
      return .documentStart
    | _ => fail .grammar

/-- Reads the beginning of the first document, which needs no marker. -/
def firstDocument : Reading Event := do
  match ← peek with
  | some (.directive _) | some .documentStart | some .streamEnd => document
  | _ =>
    later .documentEnd; expect .blockNode
    return .documentStart

/-- Reads the content of a document after its marker. -/
def documentContent : Reading Event := do
  match ← peek with
  | some (.directive _) | some .documentStart | some .documentEnd | some .streamEnd =>
    leave
    return emptyScalar
  | _ => node true false

/-- Reads the end of a document. -/
def documentEnd : Reading Event := do
  match ← peek with
  | some .documentEnd => drop
  | _ => pure ()
  expect .document
  return .documentEnd

/-! ### Block collections -/

/-- Reads an entry of a block sequence, or its end. -/
def blockSequenceEntry : Reading Event := do
  match ← peek with
  | some .blockEntry =>
    drop
    match ← peek with
    | some .blockEntry | some .blockEnd => absent .blockSequenceEntry
    | _ => later .blockSequenceEntry; node true false
  | some .blockEnd => drop; leave; return .sequenceEnd
  | _ => fail .grammar

/-- Reads an entry of a sequence without indentation of its own, or its end. -/
def plainSequenceEntry : Reading Event := do
  match ← peek with
  | some .blockEntry =>
    drop
    match ← peek with
    | some .blockEntry | some .key | some .value | some .blockEnd => absent .plainSequenceEntry
    | _ => later .plainSequenceEntry; node true false
  | _ => leave; return .sequenceEnd

/-- Reads a node of a block mapping, which may be absent. -/
def blockMappingNode (next : Expectation) : Reading Event := do
  match ← peek with
  | some .key | some .value | some .blockEnd => absent next
  | _ => later next; node true true

/-- Reads a key of a block mapping, or its end. -/
def blockMappingKey : Reading Event := do
  match ← peek with
  | some .key => drop; blockMappingNode .blockMappingValue
  | some .blockEnd => drop; leave; return .mappingEnd
  | _ => fail .grammar

/-- Reads a value of a block mapping. -/
def blockMappingValue : Reading Event := do
  match ← peek with
  | some .value => drop; blockMappingNode .blockMappingKey
  | _ => absent .blockMappingKey

/-! ### Flow collections -/

/-- Passes over the comma before an entry that is not the first one. -/
def separator (first : Bool) : Reading Unit := do
  if !first then
    match ← peek with
    | some .flowEntry => drop
    | _ => fail .grammar

/-- Reads an entry of a flow sequence, or its end. -/
def flowSequenceEntry (first : Bool) : Reading Event := do
  if (← peek) == some .flowSequenceEnd then finish
  else
    separator first
    match ← peek with
    | some .key =>
      expect .flowPairKey
      return .mappingStart none none
    | some .flowSequenceEnd => finish
    | _ => later (.flowSequenceEntry false); node false false
where
  /-- The end of a flow sequence. -/
  finish : Reading Event := do
    drop; leave
    return .sequenceEnd

/-- Reads the key of a pair in a flow sequence. -/
def flowPairKey : Reading Event := do
  drop
  match ← peek with
  | some .value | some .flowEntry | some .flowSequenceEnd => absent .flowPairValue
  | _ => later .flowPairValue; node false false

/-- Reads the value of a pair in a flow sequence. -/
def flowPairValue : Reading Event := do
  match ← peek with
  | some .value =>
    drop
    match ← peek with
    | some .flowEntry | some .flowSequenceEnd => absent .flowPairEnd
    | _ => later .flowPairEnd; node false false
  | _ => absent .flowPairEnd

/-- Reads a key of a flow mapping, or its end. -/
def flowMappingKey (first : Bool) : Reading Event := do
  if (← peek) == some .flowMappingEnd then finish
  else
    separator first
    match ← peek with
    | some .key =>
      drop
      match ← peek with
      | some .value | some .flowEntry | some .flowMappingEnd => absent .flowMappingValue
      | _ => later .flowMappingValue; node false false
    | some .flowMappingEnd => finish
    | _ => later .flowMappingNoValue; node false false
where
  /-- The end of a flow mapping. -/
  finish : Reading Event := do
    drop; leave
    return .mappingEnd

/-- Reads a value of a flow mapping. -/
def flowMappingValue : Reading Event := do
  match ← peek with
  | some .value =>
    drop
    match ← peek with
    | some .flowEntry | some .flowMappingEnd => absent (.flowMappingKey false)
    | _ => later (.flowMappingKey false); node false false
  | _ => absent (.flowMappingKey false)

/-! ### The next event -/

/-- Reads what is expected. -/
def read : Reading Event := do
  match (← get).expected with
  | .firstDocument => firstDocument
  | .document => document
  | .documentContent => documentContent
  | .documentEnd => documentEnd
  | .blockNode => node true false
  | .blockSequenceEntry => blockSequenceEntry
  | .plainSequenceEntry => plainSequenceEntry
  | .blockMappingKey => blockMappingKey
  | .blockMappingValue => blockMappingValue
  | .flowSequenceEntry first => flowSequenceEntry first
  | .flowPairKey => flowPairKey
  | .flowPairValue => flowPairValue
  | .flowPairEnd => do
    let _ ← peek
    expect (.flowSequenceEntry false)
    return .mappingEnd
  | .flowMappingKey first => flowMappingKey first
  | .flowMappingValue => flowMappingValue
  | .flowMappingNoValue => do
    let _ ← peek
    absent (.flowMappingKey false)
  | .nothing => return .streamEnd

/-- The state before the first event of a text. -/
def ofText (s : Text) : EventSource := { lexer := Lexer.ofText s }

/-- The next event. -/
def next (src : EventSource) : Except Fault (Event × EventSource) := read.run src

end EventSource

end ResourceScript.Yaml

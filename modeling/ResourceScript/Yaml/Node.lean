import ResourceScript.Yaml.Tag

/-!
# From events to nodes

The nodes of a document form a graph: an alias is another way to the node with the anchor, and a
collection may even hold itself.  Nodes are numbered in the order in which they begin.

## Main definitions

* `Yaml.Content`, `Yaml.Node` : the nodes.
* `Yaml.Graph` : the nodes by number.
* `Yaml.Builder` : a graph in the making.
* `Yaml.Graph.ofText?` : the graph of the only document of a text, with the number of its root.
-/

namespace ResourceScript.Yaml

/-- What a node holds: a text, or the numbers of further nodes. -/
inductive Content where
  | scalar (s : Text)
  | sequence (items : List Nat)
  | mapping (entries : List (Nat × Nat))
  deriving DecidableEq

/-- A node: its tag and what it holds. -/
structure Node where
  tag : Tag
  content : Content
  deriving DecidableEq

/-- The nodes by number. -/
abbrev Graph := Array Node

/-- A collection that is not complete.  In a mapping, a key may be waiting for its value. -/
inductive Frame where
  | sequence (id : Nat)
  | mapping (id : Nat) (key : Option Nat)

/-- A graph in the making: the nodes so far, the anchors, the open collections from the innermost
one outwards, and the root when it has begun. -/
structure Builder where
  graph : Graph := #[]
  anchors : List (Text × Nat) := []
  frames : List Frame := []
  root : Option Nat := none

namespace Builder

/-- Changes what a node holds. -/
def modifyContent (g : Graph) (id : Nat) (f : Content → Content) : Graph :=
  g.modify id fun n => { n with content := f n.content }

/-- Puts a node into the innermost open collection, or makes it the root. -/
def attach (b : Builder) (id : Nat) : Builder :=
  match b.frames with
  | [] => { b with root := some id }
  | .sequence s :: _ =>
    { b with graph := modifyContent b.graph s fun
        | .sequence items => .sequence (items ++ [id])
        | other => other }
  | .mapping m none :: outer => { b with frames := .mapping m (some id) :: outer }
  | .mapping m (some key) :: outer =>
    { b with
      frames := .mapping m none :: outer
      graph := modifyContent b.graph m fun
        | .mapping entries => .mapping (entries ++ [(key, id)])
        | other => other }

/-- Adds a node, whose anchor must be new. -/
def add (b : Builder) (anchor : Option Text) (n : Node) : Except Fault (Nat × Builder) :=
  let id := b.graph.size
  let added : Builder := { b with graph := b.graph.push n }
  match anchor with
  | none => .ok (id, added.attach id)
  | some a =>
    if (b.anchors.lookup a).isSome then .error .reference
    else .ok (id, { added with anchors := (a, id) :: b.anchors }.attach id)

/-- The tag of a node without a tag of its own, or with the open one, is `default`. -/
def tagOr (tag : Option Text) (default : Tag) : Tag :=
  match tag with
  | none => default
  | some name => if name = ['!'] then default else Tag.ofName name

/-- Takes the next event of a node. -/
def take (b : Builder) : Event → Except Fault Builder
  | .alias name => match b.anchors.lookup name with
    | some id => .ok (b.attach id)
    | none => .error .reference
  | .scalar anchor tag implicit s =>
    let default := if implicit then Tag.ofPlain s else .text
    (b.add anchor ⟨tagOr tag default, .scalar s⟩).map (·.2)
  | .sequenceStart anchor tag =>
    (b.add anchor ⟨tagOr tag .sequence, .sequence []⟩).map fun (id, b) =>
      { b with frames := .sequence id :: b.frames }
  | .mappingStart anchor tag =>
    (b.add anchor ⟨tagOr tag .mapping, .mapping []⟩).map fun (id, b) =>
      { b with frames := .mapping id none :: b.frames }
  | .sequenceEnd | .mappingEnd => .ok { b with frames := b.frames.drop 1 }
  | .streamEnd | .documentStart | .documentEnd => .ok b

/-- Takes events until the root is complete.  The number bounds the events. -/
def takeNode : Nat → Builder → EventSource → Except Fault (Builder × EventSource)
  | 0, _, _ => .error .grammar
  | n + 1, b, src => do
    let (e, src) ← src.next
    let b ← b.take e
    if b.frames.isEmpty then return (b, src) else takeNode n b src

end Builder

/-- The graph of the only document of a text, with the number of its root.  There is none when
the text holds no document. -/
def Graph.ofText? (s : Text) : Except Fault (Option (Graph × Nat)) := do
  let (start, src) ← (EventSource.ofText s).next
  if start = .streamEnd then return none
  else
    let (b, src) ← Builder.takeNode (16 * (s.length + 4)) {} src
    let (_, src) ← src.next
    let (last, _) ← src.next
    if last = .streamEnd then return b.root.map fun root => (b.graph, root)
    else .error .reference

end ResourceScript.Yaml

import ResourceScript.Yaml.Node
import ResourceScript.Yaml.Scalar

/-!
# From nodes to data

A document stands for a scalar, or for a collection.  Of a mapping at the top its entries are
kept, as far as they are scalars.  What collections further inside hold is not kept, but every
node is looked at, level by level, so that the first fault in that order is noticed.

Entries of other mappings may be merged into a mapping: they come first, and the mapping's own
entries win.

## Main definitions

* `Yaml.Document` : what a document stands for.
* `Yaml.flatten` : carries out the merges of a mapping.
* `Yaml.check` : looks at every node.
* `Yaml.Document.ofText` : what the document of a text stands for.
-/

namespace ResourceScript.Yaml

/-- What a document stands for.  A value of a mapping that is no scalar is known to be a
collection only. -/
inductive Document where
  | scalar (s : Scalar)
  | sequence (isEmpty : Bool)
  | mapping (entries : List (Scalar × Option Scalar))
  | set (isEmpty : Bool)

/-! ### Nodes -/

/-- What a node holds. -/
def contentOf (g : Graph) (id : Nat) : Content :=
  match g[id]? with
  | some n => n.content
  | none => .scalar []

/-- The tag of a node. -/
def tagOf (g : Graph) (id : Nat) : Tag :=
  match g[id]? with
  | some n => n.tag
  | none => .unknown

/-- Whether a tag is that of a collection, of which no key of a mapping may be one. -/
def isCollectionTag : Tag → Bool
  | .sequence | .mapping | .orderedPairs | .pairs | .set => true
  | _ => false

/-- The text of a scalar node.  A mapping stands for the text under its value sign.  The number
bounds the mappings on the way. -/
def textOf (g : Graph) : Nat → Nat → Except Fault Text
  | 0, _ => .error .node
  | n + 1, id =>
    match contentOf g id with
    | .scalar s => .ok s
    | .sequence _ => .error .node
    | .mapping entries =>
      match entries.find? fun (k, _) => tagOf g k == .value with
      | some (_, v) => textOf g n v
      | none => .error .node

/-- The datum of a scalar node. -/
def scalarOf (g : Graph) (id : Nat) : Except Fault Scalar := do
  match tagOf g id with
  | .merge | .value | .unknown => .error .node
  | tag => Scalar.ofTagged tag (← textOf g (g.size + 1) id)

/-! ### Merging -/

/-- The entries of a mapping node. -/
def entriesOf? (g : Graph) (id : Nat) : Option (List (Nat × Nat)) :=
  match contentOf g id with
  | .mapping entries => some entries
  | _ => none

/-- Turns the value sign as a key into a text. -/
def retagValueKey (g : Graph) (id : Nat) : Graph :=
  if tagOf g id = .value then g.modify id fun n => { n with tag := .text } else g

/-- Flattens mappings one after the other and collects the entries of each. -/
def flattenAll (flattenOne : Graph → Nat → Except Fault Graph) (g : Graph) (ids : List Nat) :
    Except Fault (Graph × List (List (Nat × Nat))) :=
  ids.foldlM (fun (g, found) id =>
    match contentOf g id with
    | .mapping _ => do
      let g ← flattenOne g id
      return (g, found ++ [(entriesOf? g id).getD []])
    | _ => .error .node) (g, [])

/-- The entries that a node under a merge sign contributes.  Of several mappings the first wins,
so their entries come last. -/
def mergedEntries (flattenOne : Graph → Nat → Except Fault Graph) (g : Graph) (id : Nat) :
    Except Fault (Graph × List (Nat × Nat)) :=
  match contentOf g id with
  | .mapping _ => do
    let g ← flattenOne g id
    return (g, (entriesOf? g id).getD [])
  | .sequence items => do
    let (g, found) ← flattenAll flattenOne g items
    return (g, found.reverse.flatten)
  | .scalar _ => .error .node

/-- Carries out the merges of a mapping.  The number bounds the depth of merges. -/
def flatten : Nat → Graph → Nat → Except Fault Graph
  | 0, g, _ => .ok g
  | n + 1, g, id =>
    match entriesOf? g id with
    | none => .ok g
    | some entries => do
      let (merges, own) := entries.partition fun (k, _) => tagOf g k == .merge
      let g := Builder.modifyContent g id fun _ => .mapping own
      let (g, merged) ← merges.foldlM (fun (g, merged) (_, v) => do
        let (g, found) ← mergedEntries (flatten n) g v
        return (g, merged ++ found)) (g, [])
      let g := own.foldl (fun g (k, _) => retagValueKey g k) g
      return Builder.modifyContent g id fun _ => .mapping (merged ++ own)

/-! ### Looking at every node -/

/-- The state of looking at nodes: the graph, the nodes that were looked at, and the collections
whose contents were not, in the order in which they were met. -/
structure Survey where
  graph : Graph
  seen : List Nat := []
  waiting : List Nat := []

namespace Survey

/-- Looks at a node.  The contents of a collection have to wait. -/
def visit (s : Survey) (id : Nat) : Except Fault Survey :=
  if id ∈ s.seen then .ok s
  else if isCollectionTag (tagOf s.graph id) then
    .ok { s with seen := id :: s.seen, waiting := s.waiting ++ [id] }
  else (scalarOf s.graph id).map fun _ => { s with seen := id :: s.seen }

/-- Looks at the entries of a mapping, whose keys must not be collections. -/
def visitMapping (s : Survey) (id : Nat) : Except Fault Survey := do
  match entriesOf? s.graph id with
  | none => .error .node
  | some _ =>
    let g ← flatten (s.graph.size + 2) s.graph id
    ((entriesOf? g id).getD []).foldlM (fun s (k, v) => do
      let s ← s.visit k
      if isCollectionTag (tagOf s.graph k) then .error .node else s.visit v)
      { s with graph := g }

/-- Looks at the items of a sequence. -/
def visitSequence (s : Survey) (id : Nat) : Except Fault Survey :=
  match contentOf s.graph id with
  | .sequence items => items.foldlM visit s
  | _ => .error .node

/-- Looks at a sequence of mappings with one entry each. -/
def visitPairs (s : Survey) (id : Nat) : Except Fault Survey :=
  match contentOf s.graph id with
  | .sequence items => items.foldlM (fun s item =>
      match contentOf s.graph item with
      | .mapping [(k, v)] => (s.visit k).bind (·.visit v)
      | _ => .error .node) s
  | _ => .error .node

/-- Looks at the contents of a collection. -/
def visitContents (s : Survey) (id : Nat) : Except Fault Survey :=
  match tagOf s.graph id with
  | .sequence => s.visitSequence id
  | .orderedPairs | .pairs => s.visitPairs id
  | _ => s.visitMapping id

/-- Looks at the contents of all collections.  Each waits once, which bounds their number. -/
def visitWaiting : Nat → Survey → Except Fault Survey
  | 0, s => .ok s
  | n + 1, s =>
    match s.waiting with
    | [] => .ok s
    | id :: rest => ({ s with waiting := rest }.visitContents id).bind (visitWaiting n)

end Survey

/-- Looks at every node and returns the graph with all merges carried out. -/
def check (g : Graph) (root : Nat) : Except Fault Graph := do
  let s ← ({ graph := g : Survey }).visit root
  return (← s.visitWaiting (g.size + 1)).graph

/-! ### The datum of a document -/

/-- Sets the value of a key, in place or at the end. -/
def setEntry (key : Scalar) (value : Option Scalar) :
    List (Scalar × Option Scalar) → List (Scalar × Option Scalar)
  | [] => [(key, value)]
  | (k, v) :: es => if k.sameKey key then (k, value) :: es else (k, v) :: setEntry key value es

/-- The data of the entries of a mapping. -/
def entryData (g : Graph) (id : Nat) : Except Fault (List (Scalar × Option Scalar)) :=
  ((entriesOf? g id).getD []).foldlM (fun es (k, v) => do
    let key ← scalarOf g k
    if isCollectionTag (tagOf g v) then return setEntry key none es
    else return setEntry key (some (← scalarOf g v)) es) []

/-- Whether a collection node holds nothing. -/
def isEmptyNode (g : Graph) (id : Nat) : Bool :=
  match contentOf g id with
  | .sequence items => items.isEmpty
  | .mapping entries => entries.isEmpty
  | .scalar _ => true

/-- What the document of a text stands for; a text without document stands for nothing. -/
def Document.ofText (s : Text) : Except Fault Document := do
  match ← Graph.ofText? s with
  | none => return .scalar .null
  | some (g, root) =>
    let g ← check g root
    match tagOf g root with
    | .mapping => return .mapping (← entryData g root)
    | .set => return .set (isEmptyNode g root)
    | .sequence | .orderedPairs | .pairs => return .sequence (isEmptyNode g root)
    | _ => return .scalar (← scalarOf g root)

end ResourceScript.Yaml

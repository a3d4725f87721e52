import ResourceScript.Entries
import ResourceScript.Literal.Format
import ResourceScript.Settings.Basic

/-!
# Configuration documents

A configuration document holds entries by node and key.  One node, named by the settings, holds
what all nodes share and is written in a section of its own.

## Main definitions

* `Document` : the entries of all nodes.
* `Document.add`, `Document.remove`, `Document.clear` : the changes.
* `Document.get?`, `Document.value`, `Document.nodeNames` : what is held.
* `Document.render` : the text of a document.
* `Document.Change`, `Document.apply`, `Document.applyAll` : the changes as data.

## Main results

* `Document.get?_add` : what is held after an entry was added.
-/

namespace ResourceScript

/-- A value with an optional description. -/
structure DocumentEntry where
  value : Value
  description : Option Text := none

/-- The entries by node and key, both in the order in which they were first added. -/
structure Document where
  settings : Settings := .standard
  nodes : Entries (Entries DocumentEntry) := []

namespace Document

/-! ### Entries -/

/-- The entries of a node. -/
def entriesOf (d : Document) (node : Text) : Entries DocumentEntry := (d.nodes.get? node).getD []

/-- Adds or replaces an entry. -/
def add (d : Document) (node key : Text) (entry : DocumentEntry) : Document :=
  { d with nodes := d.nodes.set node ((d.entriesOf node).set key entry) }

/-- Removes an entry, if it is held.  The node stays, also without entries. -/
def remove (d : Document) (node key : Text) : Document :=
  match d.nodes.get? node with
  | none => d
  | some entries => { d with nodes := d.nodes.set node (entries.erase key) }

/-- Removes all nodes. -/
def clear (d : Document) : Document := { d with nodes := [] }

/-- The entry under a node and a key. -/
def get? (d : Document) (node key : Text) : Option DocumentEntry := (d.entriesOf node).get? key

/-- The value under a node and a key, `null` if none is held. -/
def value (d : Document) (node key : Text) : Value := ((d.get? node key).map (·.value)).getD .null

/-- The nodes other than the shared one, in order. -/
def nodeNames (d : Document) : List Text := d.nodes.keys.filter (· ≠ d.settings.globalNode)

/-- Adding an entry changes what is held under its node and key only. -/
theorem get?_add (d : Document) (node key : Text) (entry : DocumentEntry) (node' key' : Text) :
    (d.add node key entry).get? node' key' =
      if node' = node ∧ key' = key then some entry else d.get? node' key' := by
  unfold get? entriesOf add
  rw [Entries.get?_set]
  by_cases hn : node' = node
  · subst hn
    simp [entriesOf, Entries.get?_set]
  · simp [hn]

/-- A change of a document. -/
inductive Change where
  | add (node key : Text) (entry : DocumentEntry)
  | remove (node key : Text)
  | clear

/-- Carries out a change. -/
def apply (d : Document) : Change → Document
  | .add node key entry => d.add node key entry
  | .remove node key => d.remove node key
  | .clear => d.clear

/-- Carries out changes one after the other. -/
def applyAll (d : Document) (changes : List Change) : Document := changes.foldl apply d

/-! ### The text of a document -/

/-- The lines of an entry: its description, unless that is empty, and its value. -/
def entryLines (settings : Settings) (key : Text) (entry : DocumentEntry) :
    Except FormError (List Text) := do
  let classified ← Literal.classify none entry.value
  let literal ← classified.format ⟨key, {}, settings.credentialLead⟩
  let assignment := settings.indent ++ key ++ ' ' :: '=' :: ' ' :: literal
  match entry.description with
  | some (c :: s) => return [settings.indent ++ '#' :: ' ' :: c :: s, assignment]
  | _ => return [assignment]

/-- The line that names a node. -/
def nameLine (settings : Settings) (name : Text) : Text :=
  settings.indent ++ "NodeName = \x22".toList ++ name ++ ['\x22']

/-- The hash table of a node, beginning with the given lines. -/
def nodeBlock (settings : Settings) (first : List Text) (entries : Entries DocumentEntry) :
    Except FormError Text := do
  let lines ← entries.mapM fun (key, entry) => entryLines settings key entry
  return Text.joinWith settings.lineTerminator
    ((settings.resourceIndent ++ ['@', '\x7b']) :: first ++ lines.flatten ++
      [settings.resourceIndent ++ ['\x7d']])

/-- The hash tables in the section of the shared node: one if there are entries, else none. -/
def sharedBlocks (settings : Settings) (entries : Entries DocumentEntry) :
    Except FormError (List Text) :=
  if entries.isEmpty then .ok [] else (nodeBlock settings [] entries).map ([·])

/-- The four blanks before the two sections. -/
def sectionIndent : Text := List.replicate 4 ' '

/-- A section that lists hash tables. -/
def listSection (settings : Settings) (name : Text) (blocks : List Text) : Text :=
  let nl := settings.lineTerminator
  sectionIndent ++ name ++ " = @(".toList ++ nl ++
    Text.joinWith (',' :: nl) blocks ++ (if blocks.isEmpty then [] else nl) ++
    sectionIndent ++ ')' :: nl

/-- The text of a document: the nodes in order, then what all nodes share. -/
def render (d : Document) : Except FormError Text := do
  let settings := d.settings
  let nl := settings.lineTerminator
  let blocks ← d.nodeNames.mapM fun name =>
    nodeBlock settings [nameLine settings name] (d.entriesOf name)
  let shared ← sharedBlocks settings (d.entriesOf settings.globalNode)
  return '@' :: '\x7b' :: nl ++ listSection settings "AllNodes".toList blocks ++
    listSection settings settings.globalNode shared ++ '\x7d' :: nl

end Document

end ResourceScript

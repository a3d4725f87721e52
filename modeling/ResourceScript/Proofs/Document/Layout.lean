import ResourceScript.Document
import ResourceScript.Proofs.Steps
import ResourceScript.Proofs.Text.Join

/-!
# The layout of a document

A document is written line by line. Its first section lists one hash table for each node but the
shared one, in which the name of the node stands before its entries; the tables are separated by
commas. Its second section, which is named like the shared node, has a hash table with the entries
of that node, if there are any. A hash table lists entries in order, each with its description and
its literal. A document is written exactly if every entry in it has a literal, and there is one way
to write it.

## Main definitions

* `Document.ShowsEntry`, `Document.ShowsEntries`: the lines of an entry and of the entries of a
  node.
* `Document.tableLines`, `Document.nodeLines`, `Document.documentLines`: the lines of a hash table,
  of the tables of nodes, and of a document.
* `Document.ShowsNodes`: the text with the given nodes and entries.

## Main results

* `Document.joinWith_tableLines`, `Document.joinWith_nodes`, `Document.listSection_eq`: hash tables,
  lists of them and sections are written line by line.
* `Document.nodeBlock_eq_ok_iff`, `Document.sharedBlocks_eq_ok_iff`: which hash tables are written.
* `Document.render_eq_ok_iff`: what is written.
-/

namespace ResourceScript.Document

/-! ### The lines of a document -/

/-- The line with the description of an entry; there is none for an empty description. -/
def descriptionLines (settings : Settings) (entry : DocumentEntry) : List Text :=
  let description := entry.description.getD []
  if description.isEmpty then [] else [settings.indent ++ '#' :: ' ' :: description]

/-- The lines of an entry: its description, and its key with the literal of its value. -/
def ShowsEntry (settings : Settings) (e : Text × DocumentEntry) (lines : List Text) : Prop :=
  ∃ classified literal, Literal.classify none e.2.value = .ok classified ∧
    classified.format ⟨e.1, {}, settings.credentialLead⟩ = .ok literal ∧
    lines = descriptionLines settings e.2 ++
      [settings.indent ++ e.1 ++ ' ' :: '=' :: ' ' :: literal]

/-- The lines of the entries of a node, one entry after the other. -/
def ShowsEntries (settings : Settings) (entries : Entries DocumentEntry) (lines : List Text) :
    Prop :=
  ∃ groups, List.Forall₂ (ShowsEntry settings) entries groups ∧ lines = groups.flatten

/-- The lines of a hash table, of which something follows the closing brace. -/
def tableLines (settings : Settings) (lines : List Text) (ending : Text) : List Text :=
  (settings.resourceIndent ++ "@\x7b".toList) ::
    (lines ++ [settings.resourceIndent ++ '\x7d' :: ending])

/-- The lines of the hash tables of nodes in order. Each begins with the name of its node, then come
the given lines of its entries. A comma follows every table but the last one. -/
def nodeLines (settings : Settings) (shown : Text → List Text) : List Text → List Text
  | [] => []
  | node :: nodes =>
    let name := settings.indent ++ ("NodeName = \x22".toList ++ node ++ ['\x22'])
    tableLines settings (name :: shown node) (if nodes = [] then [] else [',']) ++
      nodeLines settings shown nodes

/-- The lines of a document. All nodes stand in the first section, and in the second one, if there
are any, the lines of the entries of the shared node. -/
def documentLines (settings : Settings) (nodes : List Text) (shown : Text → List Text) :
    List Text :=
  ["@\x7b".toList, "    AllNodes = @(".toList] ++
    nodeLines settings shown nodes ++
  ["    )".toList, "    ".toList ++ settings.globalNode ++ " = @(".toList] ++
    (if shown settings.globalNode = [] then []
      else tableLines settings (shown settings.globalNode) []) ++
  ["    )".toList, "\x7d".toList]

/-- The text of lines, each of which is terminated. -/
def textOfLines (settings : Settings) (lines : List Text) : Text :=
  (lines.map (· ++ settings.lineTerminator)).flatten

/-- The text of a document with a section that lists the given nodes, each with its name and its
entries, and a section with the entries of the shared node only. -/
def ShowsNodes (settings : Settings) (nodes : List Text)
    (entriesOf : Text → Entries DocumentEntry) (text : Text) : Prop :=
  ∃ shown : Text → List Text,
    (∀ node ∈ settings.globalNode :: nodes,
      ShowsEntries settings (entriesOf node) (shown node)) ∧
    text = textOfLines settings (documentLines settings nodes shown)

variable {settings : Settings} {first lines : List Text} {entries : Entries DocumentEntry}
  {key block text : Text} {entry : DocumentEntry} {shown : Text → List Text}

theorem textOfLines_append (settings : Settings) (lines lines' : List Text) :
    textOfLines settings (lines ++ lines') =
      textOfLines settings lines ++ textOfLines settings lines' := by
  rw [textOfLines, List.map_append, List.flatten_append, textOfLines, textOfLines]

/-! ### Entries -/

theorem entryLines_eq_ok_iff :
    entryLines settings key entry = .ok lines ↔ ShowsEntry settings (key, entry) lines := by
  obtain ⟨value, description⟩ := entry
  simp only [entryLines, ShowsEntry, bind_eq_ok_iff, exists_and_left]
  rcases description with _ | _ | ⟨c, s⟩ <;>
    simp [descriptionLines, pure, Except.pure, eq_comm (b := lines)]

/-- A node without entries has no lines, and only such a node has none. -/
theorem ShowsEntries.eq_nil_iff (h : ShowsEntries settings entries lines) :
    lines = [] ↔ entries = [] := by
  obtain ⟨groups, hgroups, rfl⟩ := h
  cases hgroups with
  | nil => simp
  | cons hentry _ =>
    obtain ⟨_, _, _, _, rfl⟩ := hentry
    simp

/-- There is one way to write the entries of each node. -/
theorem exists_showsEntries (settings : Settings) (entriesOf : Text → Entries DocumentEntry) :
    ∃ shown : Text → List Text, ∀ node lines, ShowsEntries settings (entriesOf node) lines →
      lines = shown node := by
  refine ⟨fun node => (((entriesOf node).mapM fun e =>
    entryLines settings e.1 e.2).toOption.getD []).flatten, ?_⟩
  rintro node _ ⟨groups, hgroups, rfl⟩
  have hmapM : (entriesOf node).mapM (fun e => entryLines settings e.1 e.2) = .ok groups := by
    simpa only [mapM_eq_ok_iff, entryLines_eq_ok_iff] using hgroups
  simp only [hmapM]
  rfl

/-! ### Hash tables -/

/-- A hash table is written line by line. -/
theorem joinWith_tableLines (settings : Settings) (lines : List Text) (ending : Text) :
    Text.joinWith settings.lineTerminator (tableLines settings lines []) ++
      (ending ++ settings.lineTerminator) =
        textOfLines settings (tableLines settings lines ending) := by
  rw [tableLines, ← List.cons_append, Text.joinWith_concat, textOfLines, tableLines]
  simp

theorem nodeBlock_eq_ok_iff : nodeBlock settings first entries = .ok block ↔
    ∃ lines, ShowsEntries settings entries lines ∧
      Text.joinWith settings.lineTerminator (tableLines settings (first ++ lines) []) = block := by
  have hlines (groups : List (List Text)) :
      (settings.resourceIndent ++ ['@', '\x7b']) :: first ++ groups.flatten ++
          [settings.resourceIndent ++ ['\x7d']] =
        tableLines settings (first ++ groups.flatten) [] := by
    rw [tableLines, List.cons_append, List.cons_append]
    rfl
  simp only [nodeBlock, ShowsEntries, bind_eq_ok_iff, mapM_eq_ok_iff, entryLines_eq_ok_iff, pure,
    Except.pure, Except.ok.injEq, hlines]
  constructor
  · rintro ⟨groups, hgroups, hblock⟩
    exact ⟨groups.flatten, ⟨groups, hgroups, rfl⟩, hblock⟩
  · rintro ⟨_, ⟨groups, hgroups, rfl⟩, hblock⟩
    exact ⟨groups, hgroups, hblock⟩

/-- The hash tables of nodes are written line by line. -/
theorem joinWith_nodes (settings : Settings) (shown : Text → List Text) (nodes : List Text) :
    Text.joinWith (',' :: settings.lineTerminator) (nodes.map fun node =>
        Text.joinWith settings.lineTerminator
          (tableLines settings (nameLine settings node :: shown node) [])) ++
      (if nodes = [] then [] else settings.lineTerminator) =
        textOfLines settings (nodeLines settings shown nodes) := by
  have hname (node : Text) : nameLine settings node =
      settings.indent ++ ("NodeName = \x22".toList ++ node ++ ['\x22']) := by
    simp [nameLine]
  induction nodes with
  | nil => rfl
  | cons node nodes ih =>
    rw [nodeLines, textOfLines_append, ← joinWith_tableLines, ← ih, ← hname]
    cases nodes with
    | nil => simp [Text.joinWith]
    | cons node' nodes => simp [Text.joinWith_cons_cons]

/-! ### Sections -/

/-- A section is written line by line. -/
theorem listSection_eq (name : Text) {blocks : List Text} (lines : List Text)
    (h : Text.joinWith (',' :: settings.lineTerminator) blocks ++
      (if blocks = [] then [] else settings.lineTerminator) = textOfLines settings lines) :
    listSection settings name blocks = textOfLines settings
      (["    ".toList ++ name ++ " = @(".toList] ++ lines ++ ["    )".toList]) := by
  rw [textOfLines_append, textOfLines_append, ← h, listSection]
  simp [textOfLines, sectionIndent, List.isEmpty_iff]

/-- The section of the shared node has a hash table if the node has entries. -/
theorem sharedBlocks_eq_ok_iff {blocks : List Text} : sharedBlocks settings entries = .ok blocks ↔
    ∃ lines, ShowsEntries settings entries lines ∧ (if lines = [] then []
      else [Text.joinWith settings.lineTerminator (tableLines settings lines [])]) = blocks := by
  rw [sharedBlocks]
  by_cases hentries : entries = []
  · subst hentries
    have hnil : ShowsEntries settings [] [] := ⟨[], .nil, rfl⟩
    constructor
    · intro h
      exact ⟨[], hnil, Except.ok.inj h⟩
    · rintro ⟨lines, hlines, rfl⟩
      rw [hlines.eq_nil_iff.mpr rfl]
      rfl
  · rw [if_neg (by simpa using hentries), map_eq_ok_iff]
    simp only [nodeBlock_eq_ok_iff, List.nil_append]
    constructor
    · rintro ⟨_, ⟨lines, hlines, rfl⟩, rfl⟩
      exact ⟨lines, hlines, if_neg (mt hlines.eq_nil_iff.mp hentries)⟩
    · rintro ⟨lines, hlines, rfl⟩
      exact ⟨_, ⟨lines, hlines, rfl⟩, (if_neg (mt hlines.eq_nil_iff.mp hentries)).symm⟩

/-- The two sections are written line by line. -/
theorem textOfLines_documentLines (settings : Settings) (nodes : List Text)
    (shown : Text → List Text) :
    '@' :: '\x7b' :: settings.lineTerminator ++
        listSection settings "AllNodes".toList (nodes.map fun node =>
          Text.joinWith settings.lineTerminator
            (tableLines settings (nameLine settings node :: shown node) [])) ++
        listSection settings settings.globalNode (if shown settings.globalNode = [] then []
          else [Text.joinWith settings.lineTerminator
            (tableLines settings (shown settings.globalNode) [])]) ++
        '\x7d' :: settings.lineTerminator =
      textOfLines settings (documentLines settings nodes shown) := by
  have hnodes := joinWith_nodes settings shown nodes
  have hshared := joinWith_tableLines settings (shown settings.globalNode) []
  rw [listSection_eq "AllNodes".toList (nodeLines settings shown nodes) (by simpa using hnodes),
    listSection_eq settings.globalNode (if shown settings.globalNode = [] then []
      else tableLines settings (shown settings.globalNode) []) ?_]
  · simp [documentLines, textOfLines]
  · split
    · rfl
    · simpa using hshared

/-- **What is written.** A document is written exactly if every entry in it has a literal, and its
text shows the nodes and their entries in the order in which they are held. -/
theorem render_eq_ok_iff (d : Document) :
    d.render = .ok text ↔ ShowsNodes d.settings d.nodeNames d.entriesOf text := by
  rw [render, ShowsNodes]
  simp only [bind_eq_ok_iff, mapM_eq_ok_iff, nodeBlock_eq_ok_iff, sharedBlocks_eq_ok_iff, pure,
    Except.pure, Except.ok.injEq, List.forall_mem_cons]
  constructor
  · rintro ⟨blocks, hblocks, _, ⟨lines, hlines, rfl⟩, rfl⟩
    obtain ⟨shown, hshown⟩ := exists_showsEntries d.settings d.entriesOf
    obtain rfl := hshown _ _ hlines
    have hnodes : List.Forall₂ (fun node block =>
        ShowsEntries d.settings (d.entriesOf node) (shown node) ∧
          Text.joinWith d.settings.lineTerminator (tableLines d.settings
            (nameLine d.settings node :: shown node) []) = block) d.nodeNames blocks := by
      refine hblocks.imp fun node block h => ?_
      obtain ⟨lines, hlines, hblock⟩ := h
      obtain rfl := hshown _ _ hlines
      exact ⟨hlines, hblock⟩
    rw [List.forall₂_and_left, ← List.forall₂_map_left_iff, List.forall₂_eq_eq_eq] at hnodes
    obtain ⟨hnodes, rfl⟩ := hnodes
    exact ⟨shown, ⟨hlines, hnodes⟩, textOfLines_documentLines _ _ _⟩
  · rintro ⟨shown, ⟨hshared, hnodes⟩, rfl⟩
    refine ⟨d.nodeNames.map _, ?_, _, ⟨_, hshared, rfl⟩, textOfLines_documentLines _ _ _⟩
    rw [List.forall₂_map_right_iff, List.forall₂_same]
    exact fun node hnode => ⟨shown node, hnodes node hnode, rfl⟩

end ResourceScript.Document

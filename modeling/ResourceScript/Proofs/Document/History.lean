import Mathlib.Data.List.DropRight
import ResourceScript.Proofs.Document.Layout
import ResourceScript.Proofs.Entries

/-!
# A document is its history

What a document holds can be read off the changes that were made to it. Only the changes since the
last clearing count. Every node that something was added to is there, also when all of it was
removed again. An addition *lasts* if no later change removes it; the keys of a node are those of
its lasting additions, in the order of the first of them, and under each key stands what was added
last.

Changes come at the end of a history, so the induction is on the history from its end: each change
of the document is matched by what it does to the additions that last.

## Main definitions

* `Document.sinceClear`: the changes since the last clearing.
* `Document.addedNodes`, `Document.lastingAdds`: the nodes that were added to, and the additions to
  a node that last.
* `Document.IsLatest`: an entry was added last.
* `Document.Reflects`: a document agrees with a history.

## Main results

* `Document.keys_nodes_apply`, `Document.entriesOf_apply`, `Document.get?_apply`: what one change
  does.
* `Document.reflects_applyAll`: a document that was empty agrees with its history.
-/

namespace ResourceScript.Document

/-! ### Histories -/

/-- Whether a change removes all nodes. -/
def Change.isClear : Change → Bool
  | .clear => true
  | _ => false

/-- Whether a change removes the entry under a node and a key. -/
def Change.removes (node key : Text) : Change → Bool
  | .remove node' key' => node' = node && key' = key
  | _ => false

/-- Whether a change adds, replaces or removes the entry under a node and a key. -/
def Change.concerns (node key : Text) : Change → Bool
  | .add node' key' _ | .remove node' key' => node' = node && key' = key
  | .clear => true

/-- The changes since the last clearing. -/
def sinceClear (history : List Change) : List Change := history.rtakeWhile (!·.isClear)

/-- The nodes of the additions in order. -/
def addedNodes (changes : List Change) : List Text :=
  changes.filterMap fun
    | .add node _ _ => some node
    | _ => none

/-- The additions to a node that no later change removes, in order. -/
def lastingAdds (node : Text) : List Change → List (Text × DocumentEntry)
  | [] => []
  | .add node' key entry :: changes =>
    if node' = node ∧ ¬ changes.any (·.removes node key) then
      (key, entry) :: lastingAdds node changes
    else lastingAdds node changes
  | _ :: changes => lastingAdds node changes

/-- The entry was added under the node and the key, and no later change concerns these. -/
def IsLatest (history : List Change) (node key : Text) (entry : DocumentEntry) : Prop :=
  ∃ earlier later, history = earlier ++ .add node key entry :: later ∧
    ∀ change ∈ later, ¬ change.concerns node key

/-- A document agrees with a history: it has the nodes that were added to since the last clearing,
in the order of the first additions; the keys of a node are those of the additions that last, in
the order of the first ones; under each key stands what was added last, and nothing under others;
and the text of the document, if there is one, shows the nodes and their entries in these orders,
the shared node apart. -/
structure Reflects (settings : Settings) (history : List Change) (d : Document) : Prop where
  nodup_nodes : d.nodes.keys.Nodup
  nodes_eq : d.nodes.keys = (addedNodes (sinceClear history)).eraseDups
  nodup_keys : ∀ node, (d.entriesOf node).keys.Nodup
  keys_eq : ∀ node, (d.entriesOf node).keys =
    ((lastingAdds node (sinceClear history)).map (·.1)).eraseDups
  get?_iff : ∀ node key entry, d.get? node key = some entry ↔ IsLatest history node key entry
  value_eq : ∀ node key entry, IsLatest history node key entry → d.value node key = entry.value
  value_eq_null : ∀ node key, key ∉ (d.entriesOf node).keys → d.value node key = .null
  render_iff : ∀ text, d.render = .ok text ↔ ShowsNodes settings
    ((addedNodes (sinceClear history)).eraseDups.filter (· ≠ settings.globalNode)) d.entriesOf text

variable {d : Document} {history changes : List Change} {change : Change} {node key : Text}
  {entry : DocumentEntry} {settings : Settings}

/-! ### One change -/

theorem entriesOf_set (d : Document) (node' : Text) (entries : Entries DocumentEntry)
    (node : Text) : entriesOf { d with nodes := d.nodes.set node' entries } node =
      if node = node' then entries else d.entriesOf node := by
  rw [entriesOf, entriesOf, Entries.get?_set]
  split <;> rfl

theorem entriesOf_eq_nil (h : d.nodes.get? node = none) : d.entriesOf node = [] := by
  rw [entriesOf, h]
  rfl

/-- The nodes after a change. -/
theorem keys_nodes_apply (d : Document) (change : Change) :
    (d.apply change).nodes.keys = match change with
      | .add node _ _ => if node ∈ d.nodes.keys then d.nodes.keys else d.nodes.keys ++ [node]
      | .remove _ _ => d.nodes.keys
      | .clear => [] := by
  cases change with
  | add node key entry => exact Entries.keys_set _ _ _
  | remove node key =>
    rw [apply, remove]
    cases hnode : d.nodes.get? node with
    | none => rfl
    | some entries =>
      have hmem : node ∈ d.nodes.keys := by
        by_contra hnot
        simp [Entries.get?_eq_none_iff.mpr hnot] at hnode
      exact (Entries.keys_set _ _ _).trans (if_pos hmem)
  | clear => rfl

/-- The entries of a node after a change. -/
theorem entriesOf_apply (d : Document) (change : Change) (node : Text) :
    (d.apply change).entriesOf node = match change with
      | .add node' key entry =>
        if node = node' then (d.entriesOf node').set key entry else d.entriesOf node
      | .remove node' key =>
        if node = node' then (d.entriesOf node').erase key else d.entriesOf node
      | .clear => [] := by
  cases change with
  | add node' key entry => exact entriesOf_set _ _ _ _
  | remove node' key =>
    rw [apply, remove]
    cases hnode : d.nodes.get? node' with
    | none =>
      -- an unknown node is not created, and it has no entries to lose
      have hnil := entriesOf_eq_nil hnode
      by_cases h : node = node'
      · simp [h, hnil, Entries.erase]
      · simp [h]
    | some entries =>
      have hentries : d.entriesOf node' = entries := by rw [entriesOf, hnode, Option.getD_some]
      simp only [hentries]
      exact entriesOf_set _ _ _ _
  | clear => rfl

/-- What is held under a node and a key after a change. -/
theorem get?_apply (d : Document) (change : Change) (node key : Text) :
    (d.apply change).get? node key =
      if change.concerns node key then
        match change with
        | .add _ _ entry => some entry
        | _ => none
      else d.get? node key := by
  rw [get?, entriesOf_apply, get?]
  cases change with
  | add node' key' entry =>
    by_cases hnode : node = node'
    · subst hnode
      simp [Change.concerns, Entries.get?_set, eq_comm (a := key)]
    · simp [Change.concerns, hnode, Ne.symm hnode]
  | remove node' key' =>
    by_cases hnode : node = node'
    · subst hnode
      simp [Change.concerns, Entries.get?_erase, eq_comm (a := key)]
    · simp [Change.concerns, hnode, Ne.symm hnode]
  | clear => rfl

theorem settings_apply (d : Document) (change : Change) :
    (d.apply change).settings = d.settings := by
  cases change with
  | remove node key =>
    rw [apply, remove]
    cases d.nodes.get? node <;> rfl
  | _ => rfl

/-! ### One change more in a history -/

theorem applyAll_concat (d : Document) (history : List Change) (change : Change) :
    d.applyAll (history ++ [change]) = (d.applyAll history).apply change := by
  rw [applyAll, List.foldl_append]
  rfl

theorem sinceClear_concat (history : List Change) (change : Change) :
    sinceClear (history ++ [change]) =
      if change.isClear then [] else sinceClear history ++ [change] := by
  rw [sinceClear, List.rtakeWhile_concat]
  cases change.isClear <;> rfl

theorem addedNodes_concat (changes : List Change) (node key : Text) (entry : DocumentEntry) :
    addedNodes (changes ++ [.add node key entry]) = addedNodes changes ++ [node] := by
  simp [addedNodes]

/-- A removal ends the additions under its key, and other changes end none. -/
theorem lastingAdds_concat (node : Text) (changes : List Change) (change : Change) :
    lastingAdds node (changes ++ [change]) = match change with
      | .add node' key entry =>
        lastingAdds node changes ++ if node = node' then [(key, entry)] else []
      | .remove node' key =>
        if node = node' then (lastingAdds node changes).filter (·.1 ≠ key)
        else lastingAdds node changes
      | .clear => lastingAdds node changes := by
  induction changes with
  | nil =>
    cases change with
    | add node' key entry => by_cases h : node = node' <;> simp [lastingAdds, h, eq_comm]
    | remove node' key => simp [lastingAdds]
    | clear => rfl
  | cons c changes ih =>
    cases c with
    | add n k e =>
      rw [List.cons_append, lastingAdds, lastingAdds, List.any_append, ih]
      generalize changes.any (·.removes node k) = removed
      cases change with
      | add node' key entry =>
        by_cases hn : n = node <;> cases removed <;> simp [Change.removes, hn]
      | remove node' key =>
        by_cases hn : n = node
        · by_cases hnode : node = node'
          · by_cases hk : k = key <;> cases removed <;>
              simp [Change.removes, hn, hnode, hk, Ne.symm, eq_comm]
          · cases removed <;> simp [Change.removes, hn, hnode, Ne.symm hnode]
        · simp [hn]
      | clear => by_cases hn : n = node <;> cases removed <;> simp [Change.removes, hn]
    | remove n k => exact ih
    | clear => exact ih

/-- An entry was added last if the last change adds it, or if that does not concern it. -/
theorem isLatest_concat_iff : IsLatest (history ++ [change]) node key entry ↔
    change = .add node key entry ∨
      (¬ change.concerns node key ∧ IsLatest history node key entry) := by
  constructor
  · rintro ⟨earlier, later, heq, hlater⟩
    rcases List.eq_nil_or_concat' later with rfl | ⟨later, c, rfl⟩
    · exact Or.inl (List.singleton_inj.mp (List.append_inj' heq rfl).2)
    · rw [← List.cons_append, ← List.append_assoc] at heq
      obtain ⟨rfl, hc⟩ := List.append_inj' heq rfl
      obtain rfl := List.singleton_inj.mp hc
      exact Or.inr ⟨hlater _ (by simp), earlier, later, rfl, fun c hc => hlater c (by simp [hc])⟩
  · rintro (rfl | ⟨hchange, earlier, later, rfl, hlater⟩)
    · exact ⟨history, [], rfl, by simp⟩
    · refine ⟨earlier, later ++ [change], by simp, fun c hc => ?_⟩
      rcases List.mem_append.mp hc with hc | hc
      · exact hlater c hc
      · exact List.mem_singleton.mp hc ▸ hchange

/-! ### A whole history -/

theorem settings_applyAll (d : Document) (history : List Change) :
    (d.applyAll history).settings = d.settings := by
  induction history using List.reverseRecOn with
  | nil => rfl
  | append_singleton history change ih => rw [applyAll_concat, settings_apply, ih]

section Empty

variable (settings : Settings) (history : List Change)

theorem keys_nodes_applyAll : (applyAll { settings := settings } history).nodes.keys =
    (addedNodes (sinceClear history)).eraseDups := by
  induction history using List.reverseRecOn with
  | nil => rfl
  | append_singleton history change ih =>
    rw [applyAll_concat, keys_nodes_apply, sinceClear_concat, ih]
    cases change with
    | add node key entry =>
      by_cases h : node ∈ addedNodes (sinceClear history)
      · simp [Change.isClear, addedNodes_concat, Entries.eraseDups_concat, h]
      · simp [Change.isClear, addedNodes_concat, Entries.eraseDups_concat, h]
    | remove node key => simp [Change.isClear, addedNodes]
    | clear => rfl

theorem entriesOf_applyAll (node : Text) :
    (applyAll { settings := settings } history).entriesOf node =
      Entries.ofList (lastingAdds node (sinceClear history)) := by
  induction history using List.reverseRecOn with
  | nil => rfl
  | append_singleton history change ih =>
    rw [applyAll_concat, entriesOf_apply, sinceClear_concat]
    cases change with
    | add node' key entry =>
      simp only [Change.isClear, Bool.false_eq_true, if_false, lastingAdds_concat]
      by_cases h : node = node'
      · subst h
        rw [if_pos rfl, if_pos rfl, ih, Entries.ofList_concat]
      · rw [if_neg h, if_neg h, ih, List.append_nil]
    | remove node' key =>
      simp only [Change.isClear, Bool.false_eq_true, if_false, lastingAdds_concat]
      by_cases h : node = node'
      · subst h
        rw [if_pos rfl, if_pos rfl, ih, Entries.ofList_filter_ne]
      · rw [if_neg h, if_neg h, ih]
    | clear => rfl

theorem get?_applyAll_iff (node key : Text) (entry : DocumentEntry) :
    (applyAll { settings := settings } history).get? node key = some entry ↔
      IsLatest history node key entry := by
  induction history using List.reverseRecOn with
  | nil =>
    have hnot : ¬ IsLatest [] node key entry := by
      rintro ⟨earlier, later, heq, -⟩
      simp at heq
    exact iff_of_false (by simp [applyAll, get?, entriesOf, Entries.get?]) hnot
  | append_singleton history change ih =>
    rw [applyAll_concat, get?_apply, isLatest_concat_iff, ← ih]
    by_cases hconcerns : change.concerns node key
    · cases change with
      | add node' key' entry' =>
        obtain ⟨rfl, rfl⟩ : node' = node ∧ key' = key := by simpa [Change.concerns] using hconcerns
        simp [Change.concerns]
      | remove node' key' => simp [hconcerns]
      | clear => simp [hconcerns]
    · have hne : change ≠ .add node key entry := by
        rintro rfl
        simp [Change.concerns] at hconcerns
      simp [hconcerns, hne]

/-- **A document is its history.** After any changes to an empty document, it holds and shows what
these changes say. -/
theorem reflects_applyAll :
    Reflects settings history (applyAll { settings := settings } history) where
  nodup_nodes := by
    rw [keys_nodes_applyAll]
    exact Entries.nodup_eraseDups _
  nodes_eq := keys_nodes_applyAll settings history
  nodup_keys node := by
    rw [entriesOf_applyAll]
    exact Entries.nodup_keys_ofList _
  keys_eq node := by rw [entriesOf_applyAll, Entries.keys_ofList]
  get?_iff := get?_applyAll_iff settings history
  value_eq node key entry h := by
    rw [value, (get?_applyAll_iff settings history node key entry).mpr h]
    rfl
  value_eq_null node key h := by
    rw [value, get?, Entries.get?_eq_none_iff.mpr h]
    rfl
  render_iff text := by
    rw [render_eq_ok_iff, settings_applyAll, nodeNames, keys_nodes_applyAll, settings_applyAll]

end Empty

/-- A key that is removed and added again goes to the end. -/
example : ((applyAll {} [.add ['n'] ['a'] ⟨.null, none⟩, .add ['n'] ['b'] ⟨.null, none⟩,
    .remove ['n'] ['a'], .add ['n'] ['a'] ⟨.null, none⟩]).entriesOf ['n']).keys =
      [['b'], ['a']] := by decide

end ResourceScript.Document

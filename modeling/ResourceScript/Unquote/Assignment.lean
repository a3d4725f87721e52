import ResourceScript.Text.Blank

/-!
# Finding an assignment

A parameter is assigned where its name, followed by a blank, stands at the beginning of the text
or after a blank character, and the next equals sign comes before the next double quote.  An
occurrence in which the quote comes first lies inside of another value.

The search walks over the occurrences that do not overlap, and stops when no equals sign is left.

## Main definitions

* `Unquote.Ahead` : which of an equals sign and a double quote comes first.
* `Unquote.findAssignment?` : the position of the assignment of a parameter.
-/

namespace ResourceScript.Unquote

/-- What comes first in a text. -/
inductive Ahead where
  /-- There is no equals sign. -/
  | noEquals
  /-- The first equals sign comes before any double quote. -/
  | equals
  /-- A double quote comes before the first equals sign. -/
  | quote
  deriving DecidableEq

/-- Which of an equals sign and a double quote comes first. -/
def ahead (s : Text) : Ahead :=
  match Text.find? ['='] s, Text.find? ['\x22'] s with
  | none, _ => .noEquals
  | some _, none => .equals
  | some e, some q => if e < q then .equals else .quote

/-- Walks over the occurrences of `name` and a blank.  `pos` is the position of the text, `start`
tells whether a name may begin there, and `skip` counts the characters of the last occurrence that
are still to be passed over. -/
def findAssignmentFrom? (name : Text) : (start : Bool) → (skip pos : Nat) → Text → Option Nat
  | _, _, _, [] => none
  | _, k + 1, pos, c :: s => findAssignmentFrom? name (Text.isBlank c) k (pos + 1) s
  | start, 0, pos, c :: s =>
    if start && (name ++ [' ']).isPrefixOf (c :: s) then
      match ahead (c :: s) with
      | .noEquals => none
      | .equals => some pos
      | .quote => findAssignmentFrom? name (Text.isBlank c) name.length (pos + 1) s
    else findAssignmentFrom? name (Text.isBlank c) 0 (pos + 1) s

/-- The position of the assignment of a parameter. -/
def findAssignment? (name block : Text) : Option Nat := findAssignmentFrom? name true 0 0 block

end ResourceScript.Unquote

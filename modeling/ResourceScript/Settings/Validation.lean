import ResourceScript.Settings.Basic
import ResourceScript.Settings.Width
import ResourceScript.Text.Octets
import ResourceScript.Value.Form

/-!
# Validating supplied settings

Supplied settings are pairs of keys and data.  Fields that are not supplied have their defaults.
All problems are reported together: those of the fields in the order of the fields, then the keys
that are no fields in the order in which they were supplied.

## Main definitions

* `Settings.Datum`, `Settings.Key`, `Settings.Supply` : what is supplied.
* `Settings.Field` : the names of the fields.
* `Settings.validate` : the settings, or all problems.
* `Settings.ofValue` : the settings that a value describes.
* `Settings.assign` : an attempt to change a field.

## Main results

* `Settings.validate_nil` : without anything supplied the settings have their defaults.
-/

namespace ResourceScript.Settings

/-! ### Supplied data -/

/-- A supplied datum, as far as the fields tell data apart.  A member of an enumeration is known
by the text form and the integer of its value. -/
inductive Datum where
  | text (s : Text)
  | octets (bytes : List UInt8)
  | bool (b : Bool)
  | int (n : Int)
  | float (x : Binary64)
  | member (form : Option Text) (number : Option Int)
  | other

/-- A key: a text, or the last step of the way to a key that is none. -/
inductive Key where
  | text (s : Text)
  | other (shown : Step)
  deriving DecidableEq

/-- Supplied keys with their data. -/
abbrev Supply := List (Key × Datum)

/-- The datum that a value supplies. -/
def Datum.ofValue : Value → Datum
  | .text s => .text s
  | .bool b => .bool b
  | .int n | .hugeInt n => .int n
  | .float x => .float x
  | .member _ _ value =>
    .member value.plainForm? (match value with | .int n | .hugeInt n => some n | _ => none)
  | _ => .other

/-! ### Fields -/

/-- The fields, in the order in which their problems are reported. -/
inductive Field where
  | lineTerminator
  | indent
  | resourceIndent
  | minNameWidth
  | metadataLead
  | credentialLead
  | globalNode
  deriving DecidableEq

/-- The key of a field. -/
def Field.key : Field → Text
  | lineTerminator => "line_terminator".toList
  | indent => "indent".toList
  | resourceIndent => "resource_indent".toList
  | minNameWidth => "min_name_width".toList
  | metadataLead => "metadata_prefix".toList
  | credentialLead => "credential_prefix".toList
  | globalNode => "global_node".toList

/-- All fields in order. -/
def Field.all : List Field :=
  [lineTerminator, indent, resourceIndent, minNameWidth, metadataLead, credentialLead, globalNode]

/-- A text datum. -/
def readText : Datum → Except Problem Text
  | .text s => .ok s
  | .octets bytes => match Text.ofOctets? bytes with
    | some s => .ok s
    | none => .error .undecodable
  | .member (some form) _ => .ok form
  | _ => .error .notText

/-- A text datum that is not empty. -/
def readNonEmpty (d : Datum) : Except Problem { s : Text // s ≠ [] } :=
  match readText d with
  | .error p => .error p
  | .ok s => if h : s = [] then .error .empty else .ok ⟨s, h⟩

/-- A text datum that is blank. -/
def readBlank (d : Datum) : Except Problem { s : Text // s.all Text.isBlank } :=
  match readText d with
  | .error p => .error p
  | .ok s => if h : s.all Text.isBlank then .ok ⟨s, h⟩ else .error .notBlank

/-- An integer datum. -/
def readInteger : Datum → Except Problem Int
  | .text s => integerOfText s
  | .octets bytes => match Text.ofOctets? bytes with
    | some s => integerOfText s
    | none => .error .unreadableInteger
  | .bool b => .ok (if b then 1 else 0)
  | .int n => .ok n
  | .float x => integerOfFloat x
  | .member _ (some n) => .ok n
  | _ => .error .notInteger

/-- A width. -/
def readWidth (d : Datum) : Except Problem Nat := (readInteger d).bind widthOfInteger

/-! ### Validation -/

/-- The datum that is supplied for a field. -/
def Supply.get? (supply : Supply) (f : Field) : Option Datum :=
  supply.findSome? fun (k, d) => if k = .text f.key then some d else none

/-- A field as `read` reads it, or its default. -/
def Supply.read {α : Type} (supply : Supply) (f : Field) (read : Datum → Except Problem α)
    (default : α) : Except Issue α :=
  match supply.get? f with
  | none => .ok default
  | some d => match read d with
    | .ok a => .ok a
    | .error p => .error ⟨[.name f.key], p⟩

/-- The issue with a key that is no field. -/
def Key.issue? : Key → Option Issue
  | .text s => if (Field.all.map Field.key).contains s then none else some ⟨[.name s], .unknownField⟩
  | .other shown => some ⟨[shown], .keyNotText⟩

/-- The issue of a failed reading. -/
def issueOf {α : Type} : Except Issue α → List Issue
  | .ok _ => []
  | .error i => [i]

/-- The settings that are supplied, or all issues. -/
def validate (supply : Supply) : Except (List Issue) Settings :=
  let initial := standard
  let terminator := supply.read .lineTerminator readNonEmpty
    ⟨initial.lineTerminator, initial.lineTerminator_ne_nil⟩
  let indentation := supply.read .indent readBlank ⟨initial.indent, initial.indent_blank⟩
  let outerIndentation := supply.read .resourceIndent readBlank
    ⟨initial.resourceIndent, initial.resourceIndent_blank⟩
  let width := supply.read .minNameWidth readWidth initial.minNameWidth
  let metadata := supply.read .metadataLead readNonEmpty
    ⟨initial.metadataLead, initial.metadataLead_ne_nil⟩
  let credential := supply.read .credentialLead readNonEmpty
    ⟨initial.credentialLead, initial.credentialLead_ne_nil⟩
  let node := supply.read .globalNode readNonEmpty ⟨initial.globalNode, initial.globalNode_ne_nil⟩
  let keyIssues := supply.filterMap fun e => e.1.issue?
  match terminator, indentation, outerIndentation, width, metadata, credential, node, keyIssues with
  | .ok t, .ok i, .ok r, .ok w, .ok m, .ok c, .ok n, [] =>
    .ok {
      lineTerminator := t.1, lineTerminator_ne_nil := t.2
      indent := i.1, indent_blank := i.2
      resourceIndent := r.1, resourceIndent_blank := r.2
      minNameWidth := w
      metadataLead := m.1, metadataLead_ne_nil := m.2
      credentialLead := c.1, credentialLead_ne_nil := c.2
      globalNode := n.1, globalNode_ne_nil := n.2 }
  | _, _, _, _, _, _, _, _ =>
    .error (issueOf terminator ++ issueOf indentation ++ issueOf outerIndentation ++
      issueOf width ++ issueOf metadata ++ issueOf credential ++ issueOf node ++ keyIssues)

/-- Without anything supplied the settings have their defaults. -/
theorem validate_nil : validate [] = .ok standard := rfl

/-- The settings that a value describes. -/
def ofValue : Value → Except (List Issue) Settings
  | .mapping _ entries => validate (entries.map fun (k, v) => (.text k, Datum.ofValue v))
  | _ => .error [⟨[], .notMapping⟩]

/-- Settings never change: an assignment fails, unless the name is a private one, which no setting
has. -/
def assign (s : Settings) (name : Text) : Except (List Issue) Settings :=
  if name.head? = some '_' then .ok s else .error [⟨[.name name], .frozen⟩]

end ResourceScript.Settings

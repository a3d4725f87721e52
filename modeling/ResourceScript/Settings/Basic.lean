import ResourceScript.Credential.Basic
import ResourceScript.Text.Blank

/-!
# Settings

The conventions of the emitted text.  Only valid settings exist: the texts that other operations
search for are not empty, and indentations are blank.

## Main definitions

* `Settings` : the conventions, with their validity.
* `Settings.standard` : the default conventions.
* `Settings.statementEnd` : what ends a statement.
-/

namespace ResourceScript

/-- The conventions of the emitted text. -/
structure Settings where
  lineTerminator : Text := ['\r', '\n']
  indent : Text := List.replicate 12 ' '
  resourceIndent : Text := List.replicate 8 ' '
  minNameWidth : Nat := 20
  metadataLead : Text := "_metadata_".toList
  credentialLead : Text := Credential.defaultReferencePrefix
  globalNode : Text := "NonNodeData".toList
  lineTerminator_ne_nil : lineTerminator ≠ [] := by decide
  indent_blank : indent.all Text.isBlank := by decide
  resourceIndent_blank : resourceIndent.all Text.isBlank := by decide
  metadataLead_ne_nil : metadataLead ≠ [] := by decide
  credentialLead_ne_nil : credentialLead ≠ [] := by decide
  globalNode_ne_nil : globalNode ≠ [] := by decide

/-- The settings with all their defaults. -/
def Settings.standard : Settings := {}

/-- A semicolon and the line terminator end a statement. -/
def Settings.statementEnd (s : Settings) : Text := ';' :: s.lineTerminator

end ResourceScript

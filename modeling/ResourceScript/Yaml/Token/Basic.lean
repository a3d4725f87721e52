import ResourceScript.Yaml.Token.Name

/-!
# Tokens

The tokens of a YAML document.  The beginning and the end of block collections have no sign in the
text; they follow from the indentation.

## Main definitions

* `Yaml.Token` : the tokens.
-/

namespace ResourceScript.Yaml

/-- A token of a document. -/
inductive Token where
  | streamEnd
  | directive (d : Directive)
  | documentStart
  | documentEnd
  | blockSequenceStart
  | blockMappingStart
  | blockEnd
  | flowSequenceStart
  | flowSequenceEnd
  | flowMappingStart
  | flowMappingEnd
  | blockEntry
  | flowEntry
  | key
  | value
  | alias (name : Text)
  | anchor (name : Text)
  | tag (handle : Option Text) (suffix : Text)
  | scalar (s : Text) (plain : Bool)
  deriving DecidableEq

end ResourceScript.Yaml

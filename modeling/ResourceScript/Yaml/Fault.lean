/-!
# Faults of YAML documents

What can be wrong with a YAML document, by the stage at which it is noticed.

## Main definitions

* `Yaml.Fault` : the kinds of faults.
-/

namespace ResourceScript.Yaml

/-- Why a YAML document cannot be read. -/
inductive Fault where
  /-- A character that no document may hold. -/
  | unprintable
  /-- No token can be read. -/
  | token
  /-- The tokens do not form a document. -/
  | grammar
  /-- An anchor is undefined or defined twice, or there is more than one document. -/
  | reference
  /-- A node does not have the form that its tag asks for, or the tag is unknown. -/
  | node
  /-- A numeral, date or character number stands for no value. -/
  | value
  /-- A character number exceeds a signed word. -/
  | oversized
  /-- A word is none of the truth values. -/
  | word
  /-- A numeral has no digits. -/
  | noDigits
  /-- A time does not have the form of one. -/
  | time
  deriving DecidableEq

end ResourceScript.Yaml

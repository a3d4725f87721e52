import ResourceScript.Text.Basic

/-!
# Literal kinds

The kinds of literals of the configuration language.  A kind is what a parameter is declared with
and what a classified value carries.

## Main definitions

* `Kind` : the kinds of literals.
* `Kind.tagName`, `Kind.fieldName` : how a classified value of the kind is shown.
-/

namespace ResourceScript

/-- A kind of literal.  `verbatim` is for text that already is a literal. -/
inductive Kind where
  | null
  | text
  | bool
  | credential
  | mapping
  | textArray
  | intArray
  | objectArray
  | enumeration
  | verbatim
  deriving DecidableEq, Repr

namespace Kind

/-- The type name of a classified value. -/
def tagName : Kind → Text
  | null => "_Null".toList
  | text => "VText".toList
  | bool => "VBool".toList
  | credential => "VCredential".toList
  | mapping => "VMapping".toList
  | textArray => "VTextArray".toList
  | intArray => "VIntArray".toList
  | objectArray => "VObjectArray".toList
  | enumeration => "VEnum".toList
  | verbatim => "VOpaque".toList

/-- The name under which a classified value shows what it holds. -/
def fieldName : Kind → Text
  | mapping => "entries".toList
  | textArray | intArray | objectArray => "items".toList
  | verbatim => "text".toList
  | _ => "value".toList

/-- Whether the kind is one of the three kinds of arrays. -/
def isArray : Kind → Bool
  | textArray | intArray | objectArray => true
  | _ => false

end Kind

end ResourceScript

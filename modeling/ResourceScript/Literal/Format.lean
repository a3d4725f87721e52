import ResourceScript.Literal.Array

/-!
# Written literals

The text of a literal of any kind.

## Main definitions

* `Literal.formatText`, `Literal.formatBool`, `Literal.formatEnumeration`,
  `Literal.formatCredential`, `Literal.formatVerbatim` : literals of scalars.
* `Literal.Context` : what a literal depends on besides its value.
* `Literal.format`, `Literal.formatClassified` : the text of a literal and of a classified value.
-/

namespace ResourceScript.Literal

/-- The double-quoted literal of a value; an absent text is empty. -/
def formatText (q : Quoting) : Value → Except FormError Text
  | .null => .ok ['\x22', '\x22']
  | v => (plainForm v).map q.quote

/-- The literal of the truth value that stands for a value. -/
def formatBool (v : Value) : Text := if v.isTruthy then "$True".toList else "$False".toList

/-- The name of a member, or any other value, between double quotes without escaping. -/
def formatEnumeration : Value → Except FormError Text
  | .member _ name _ => .ok ('\x22' :: (name ++ ['\x22']))
  | v => (plainForm v).map fun s => '\x22' :: (s ++ ['\x22'])

/-- The expression for a credential: a prompt when it is absent, an existing reference with
hyphens and dots as underscores, else the reference to the user. -/
def formatCredential (parameter lead : Text) : Value → Except FormError Text
  | .null => .ok ("Get-Credential -Message ".toList ++ parameter)
  | v => (plainForm v).map fun s =>
    if Credential.isReference lead s then Credential.underscoreSeparators s
    else Credential.referenceName s lead

/-- Text that already is a literal.  Anything else in its place gets its text form only where the
literal is put in a line. -/
def formatVerbatim (v : Value) : Except FormError Text := plainForm v

/-- What a literal depends on besides its value: the name of the parameter, the way in which texts
are quoted, and what references to credentials begin with. -/
structure Context where
  parameter : Text := []
  quoting : Quoting := {}
  lead : Text := Credential.defaultReferencePrefix

/-- The text of a literal. -/
def format (ctx : Context) (l : Literal) : Except FormError Text :=
  match l.kind with
  | .null => .ok "$null".toList
  | .text => formatText ctx.quoting l.payload
  | .bool => .ok (formatBool l.payload)
  | .credential => formatCredential ctx.parameter ctx.lead l.payload
  | .mapping => formatMapping l.payload
  | .textArray => formatTextArray ctx.quoting l.payload
  | .intArray => formatIntArray l.payload
  | .objectArray => formatObjectArray ctx.quoting l.payload
  | .enumeration => formatEnumeration l.payload
  | .verbatim => formatVerbatim l.payload

/-- The text of a classified value. -/
def formatClassified (ctx : Context) : Value → Except FormError Text
  | .classified kind payload => format ctx ⟨kind, payload⟩
  | v => .error (.unclassified v.typeName)

end ResourceScript.Literal

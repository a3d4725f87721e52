import ResourceScript.Entries
import ResourceScript.Kind
import ResourceScript.Text.Blank
import ResourceScript.Text.LowerCase

/-!
# Declared parameters

A resource declares the kinds of its parameters.  Parameter names are compared without regard to
case, and type names as they stand in a schema are mapped to kinds.

## Main definitions

* `Parameter`, `ResourceSchema` : a declared parameter, and the parameters of a resource.
* `ResourceSchema.kindOf?` : the declared kind of a parameter.
* `Kind.ofTypeName?` : the kind that a type name stands for.
* `ResourceSchema.ofTypeNames` : a schema from parameter names and type names.
-/

namespace ResourceScript

/-- A declared parameter, with the type name that the schema gives, if it is known. -/
structure Parameter where
  name : Text
  kind : Option Kind
  typeName : Text := []

/-- The declared parameters of a resource. -/
structure ResourceSchema where
  name : Text
  parameters : List Parameter := []

/-- The declared kind of a parameter, which is looked up without its leading variable signs and
without regard to case. -/
def ResourceSchema.kindOf? (r : ResourceSchema) (parameter : Text) : Option Kind :=
  let wanted := Text.lowerCase (parameter.dropWhile (· == '$'))
  (r.parameters.find? fun p => Text.lowerCase p.name == wanted).bind (·.kind)

namespace Kind

/-- The kinds of the known type names, in lower case and without name space. -/
def ofShortTypeName : List (Text × Kind) :=
  [("string".toList, .text), ("guid".toList, .text), ("timespan".toList, .text),
   ("datetime".toList, .text), ("boolean".toList, .bool), ("bool".toList, .bool),
   ("switchparameter".toList, .bool), ("pscredential".toList, .credential),
   ("hashtable".toList, .mapping), ("string[]".toList, .textArray),
   ("arraylist".toList, .textArray), ("list\x601".toList, .textArray),
   ("uint32[]".toList, .intArray), ("int32[]".toList, .intArray),
   ("object[]".toList, .objectArray), ("ciminstance[]".toList, .objectArray),
   ("ciminstance".toList, .verbatim), ("uint32".toList, .verbatim), ("int32".toList, .verbatim),
   ("uint64".toList, .verbatim), ("int64".toList, .verbatim)]

/-- The name spaces that a type name may begin with, the longer ones first. -/
def nameSpaces : List Text :=
  ["system.management.automation.".toList, "microsoft.management.infrastructure.".toList,
   "system.collections.generic.".toList, "system.collections.".toList, "system.".toList]

/-- A type name without the square brackets around all of it. -/
def withoutBrackets (s : Text) : Text :=
  match s with
  | '[' :: inner => if inner.getLast? = some ']' then inner.dropLast else s
  | _ => s

/-- A type name without its name space. -/
def withoutNameSpace (s : Text) : Text :=
  (nameSpaces.findSome? fun n => Text.dropIfPrefix? n s).getD s

/-- The kind that a type name stands for, blanks at its ends and case aside. -/
def ofTypeName? (typeName : Text) : Option Kind :=
  ofShortTypeName.lookup
    (withoutNameSpace (withoutBrackets (Text.lowerCase (Text.trimBlank typeName))))

end Kind

/-- A schema from the type names of the parameters.  The last type name of a parameter counts, and
parameters with an unknown one are taken verbatim. -/
def ResourceSchema.ofTypeNames (name : Text) (typeNames : List (Text × Text)) : ResourceSchema where
  name := name
  parameters := (Entries.ofList typeNames).map fun (p, t) =>
    { name := p, kind := some ((Kind.ofTypeName? t).getD .verbatim), typeName := t }

end ResourceScript

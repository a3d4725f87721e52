import ResourceScript.Binary64.Basic
import ResourceScript.Credential.Basic
import ResourceScript.Kind

/-!
# Values

The values that a configuration is written from.  Besides scalars, sequences and mappings there
are credentials, members of enumerations, objects of foreign types, and values that were already
classified as a literal of some kind.

## Main definitions

* `Value` : the values.
* `Value.typeName` : the name of the type of a value.
* `Value.isTruthy` : the truth value that stands for a value.
-/

namespace ResourceScript

/-- The two sorts of mappings, which differ in how they are shown only. -/
inductive MappingSort where
  | plain
  | ordered
  deriving DecidableEq

/-- A value.  A huge integer is one with more digits than the host is ready to write.  An object of
a foreign type is known by the name of its type and by its plain and its quoted text form, each of
which it may lack.  A classified value pairs a kind with the value that its literal is written from;
the null literal is paired with `null`. -/
inductive Value where
  | null
  | bool (b : Bool)
  | int (n : Int)
  | hugeInt (n : Int)
  | float (x : Binary64)
  | text (s : Text)
  | list (items : List Value)
  | tuple (items : List Value)
  | mapping (sort : MappingSort) (entries : List (Text × Value))
  | credential (c : Credential)
  | member (typeName name : Text) (value : Value)
  | object (typeName : Text) (plain quoted : Option Text)
  | classified (kind : Kind) (payload : Value)

namespace Value

/-- The name of the type of a value. -/
def typeName : Value → Text
  | null => "NoneType".toList
  | bool _ => "bool".toList
  | int _ | hugeInt _ => "int".toList
  | float _ => "float".toList
  | text _ => "str".toList
  | list _ => "list".toList
  | tuple _ => "tuple".toList
  | mapping .plain _ => "dict".toList
  | mapping .ordered _ => "OrderedDict".toList
  | credential _ => "Credential".toList
  | member typeName _ _ => typeName
  | object typeName _ _ => typeName
  | classified kind _ => kind.tagName

/-- Null, false, the zeros and everything empty are false; all other values are true. -/
def isTruthy : Value → Bool
  | null => false
  | bool b => b
  | int n | hugeInt n => n != 0
  | float x => !x.isZero
  | text s => !s.isEmpty
  | list items => !items.isEmpty
  | tuple items => !items.isEmpty
  | mapping _ entries => !entries.isEmpty
  | classified .null _ => false
  | _ => true

/-- Whether a value is `null`. -/
def isNull : Value → Bool
  | null => true
  | _ => false

/-- Whether a value is a sequence without items, of which the items do not tell the kind. -/
def isEmptySequence : Value → Bool
  | list [] | tuple [] => true
  | _ => false

/-- Whether a value was already classified. -/
def isClassified : Value → Bool
  | classified _ _ => true
  | _ => false

end Value

end ResourceScript

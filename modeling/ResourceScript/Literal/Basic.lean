import ResourceScript.Value.Form

/-!
# Literals before they are written

A literal pairs a kind with the value that it is written from.  Classification chooses the kind of
a value: values that do not tell their kind, such as `null` and sequences without items, take the
kind that the parameter is declared with.

## Main definitions

* `Literal` : a kind and the value to write.
* `FormError` : why a value has no literal.
* `Literal.absent` : the literal of an absent value of a declared kind.
* `Literal.classify` : the literal of a value.

## Main results

* `Literal.classify_toValue` : a classified value keeps its kind.
-/

namespace ResourceScript

/-- Why a value has no literal. -/
inductive FormError where
  /-- The value, or one inside of it, has no text form. -/
  | noTextForm
  /-- A text is needed here. -/
  | notText
  /-- A mapping is needed here. -/
  | notMapping
  /-- A mapping is needed here, and an array literal is given. -/
  | arrayAsMapping
  /-- A sequence is needed here. -/
  | notSequence
  /-- A mapping has no item at a position. -/
  | noItemAtPosition
  /-- The value was not classified. -/
  | unclassified (typeName : Text)
  deriving DecidableEq

/-- The explanation of an error, where there is one. -/
def FormError.message? : FormError → Option Text
  | noTextForm => some "no string form".toList
  | unclassified typeName => some ("expected a DynamicValue, got ".toList ++ typeName ++
      "; use values.classify() first".toList)
  | _ => none

/-- A kind of literal and the value that the literal is written from.  The null literal is written
from `null`. -/
structure Literal where
  kind : Kind
  payload : Value

namespace Literal

/-- The literal as a value that needs no classification. -/
def toValue (l : Literal) : Value := .classified l.kind l.payload

/-- The null literal. -/
def null : Literal := ⟨.null, .null⟩

/-- The literal of an absent value.  An absent enumeration is an absent text, and the kinds
without an absent form of their own give the null literal. -/
def absent : Option Kind → Literal
  | some .text | some .enumeration => ⟨.text, .null⟩
  | some .credential => ⟨.credential, .null⟩
  | some .textArray => ⟨.textArray, .null⟩
  | some .intArray => ⟨.intArray, .null⟩
  | some .objectArray => ⟨.objectArray, .null⟩
  | _ => null

/-- The kind of an array with the given items: a declared kind of text or integer arrays, else
the kind that the first item tells. -/
def arrayKind (declared : Option Kind) (items : List Value) : Kind :=
  match declared, items with
  | some .textArray, _ => .textArray
  | some .intArray, _ => .intArray
  | some .objectArray, [] => .objectArray
  | _, [] => .textArray
  | _, .text _ :: _ => .textArray
  | _, .int _ :: _ | _, .hugeInt _ :: _ => .intArray
  | _, _ => .objectArray

/-- The text that is already a literal: the plain form of a value. -/
def verbatim? (v : Value) : Except FormError Literal :=
  match v.plainForm? with
  | some s => .ok ⟨.verbatim, .text s⟩
  | none => .error .noTextForm

/-- The literal of a value under a declared kind. -/
def classify (declared : Option Kind) : Value → Except FormError Literal
  | .classified kind payload => .ok ⟨kind, payload⟩
  | .null => .ok (absent declared)
  | .bool b => .ok ⟨.bool, .bool b⟩
  | .credential c => .ok ⟨.credential, .credential c⟩
  | .member typeName name value => .ok ⟨.enumeration, .member typeName name value⟩
  | .text s =>
    match declared with
    | some .credential => .ok ⟨.credential, .text s⟩
    | some .enumeration => .ok ⟨.enumeration, .text s⟩
    | _ => .ok ⟨.text, .text s⟩
  | .mapping sort entries => .ok ⟨.mapping, .mapping sort entries⟩
  | .list items | .tuple items => .ok ⟨arrayKind declared items, .list items⟩
  | v => verbatim? v

/-- A classified value keeps its kind, whatever is declared. -/
@[simp] theorem classify_toValue (declared : Option Kind) (l : Literal) :
    classify declared l.toValue = .ok l := rfl

end Literal

end ResourceScript

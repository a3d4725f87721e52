import ResourceScript.Binary64.Shortest
import ResourceScript.Text.Quoted
import ResourceScript.Value.Basic

/-!
# Text forms of values

A value has a plain form, in which it is written on its own, and a quoted form, in which it is shown
inside of sequences, mappings and classified values.  The plain form of a text is the bare text.  An
object may lack either form and a huge integer lacks both; a value in which such a value is shown
lacks them, too.  Text that already is a literal has the text itself as its plain form, and none if
anything else stands in place of the text.

## Main definitions

* `Value.quotedForm?` : the form in which a value is shown inside of another one.
* `Value.plainForm?` : the form in which a value is written on its own.

## Main results

* `Value.plainForm?_text`, `Value.plainForm?_int` : the plain forms of texts and integers.
-/

namespace ResourceScript.Value

/-- Items between brackets, with a comma and a blank between neighbours. -/
def bracketed (opening closing : Text) (items : List Text) : Text :=
  opening ++ (Text.joinWith ", ".toList items ++ closing)

/-- The form of a truth value. -/
def boolForm (b : Bool) : Text := if b then "True".toList else "False".toList

/-- The form of a tuple, in which a single item is followed by a comma. -/
def tupleForm : List Text → Text
  | [item] => '(' :: (item ++ ",)".toList)
  | items => bracketed ['('] [')'] items

mutual

/-- The form in which a value is shown inside of another one. -/
def quotedForm? : Value → Option Text
  | null => some "None".toList
  | bool b => some (boolForm b)
  | int n => some (Text.ofInt n)
  | float x => some x.toText
  | text s => some (Text.quoted s)
  | list items => (quotedItems? items).map (bracketed ['['] [']'])
  | tuple items => (quotedItems? items).map tupleForm
  | mapping .plain entries =>
    (quotedEntries? entries).map fun es =>
      bracketed ['\x7b'] ['\x7d'] (es.map fun (k, v) => k ++ ':' :: ' ' :: v)
  | mapping .ordered [] => some "OrderedDict()".toList
  | mapping .ordered entries =>
    (quotedEntries? entries).map fun es =>
      bracketed "OrderedDict([".toList "])".toList (es.map fun (k, v) => tupleForm [k, v])
  | credential c =>
    some ("Credential(username=".toList ++ Text.quoted c.username ++ [')'])
  | member typeName name value =>
    (quotedForm? value).map fun v =>
      '<' :: (typeName ++ '.' :: (name ++ ':' :: ' ' :: (v ++ ['>'])))
  | hugeInt _ => none
  | object _ _ quoted => quoted
  | classified .null _ => some "Null".toList
  | classified kind payload =>
    (quotedForm? payload).map fun v =>
      kind.tagName ++ '(' :: (kind.fieldName ++ '=' :: (v ++ [')']))

/-- The quoted forms of all items. -/
def quotedItems? : List Value → Option (List Text)
  | [] => some []
  | v :: vs =>
    match quotedForm? v, quotedItems? vs with
    | some t, some ts => some (t :: ts)
    | _, _ => none

/-- The quoted forms of all keys and values. -/
def quotedEntries? : List (Text × Value) → Option (List (Text × Text))
  | [] => some []
  | (k, v) :: es =>
    match quotedForm? v, quotedEntries? es with
    | some t, some ts => some ((Text.quoted k, t) :: ts)
    | _, _ => none

end

/-- The form in which a value is written on its own. -/
def plainForm? : Value → Option Text
  | text s => some s
  | credential c => some c.username
  | member typeName name _ => some (typeName ++ '.' :: name)
  | object _ plain _ => plain
  | classified .verbatim (text s) => some s
  | classified .verbatim _ => none
  | v => quotedForm? v

@[simp] theorem plainForm?_text (s : Text) : plainForm? (text s) = some s := rfl

@[simp] theorem plainForm?_int (n : Int) : plainForm? (int n) = some (Text.ofInt n) := rfl

end ResourceScript.Value

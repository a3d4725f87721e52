import ResourceScript.Literal.Basic
import ResourceScript.Literal.Quoting

/-!
# Array and mapping literals

Literals of composite values.  Items that are `null` are left out of text and integer arrays.  The
shape of an array of objects is chosen by its first item: texts give an array of texts, mappings
give an array of hash tables, and anything else is taken for text that already is a literal.

## Main definitions

* `Literal.plainForm` : the plain form of a value, or why it lacks one.
* `Literal.formatTextArray`, `Literal.formatIntArray`, `Literal.formatObjectArray` : the array
  literals.
* `Literal.formatHashTable` : a mapping inside of an array.
* `Literal.formatMapping` : a mapping on its own.

## Main results

* `Literal.plainForm_eq_ok_iff`, `Literal.exists_plainForm_eq_error_iff` : which values have a plain
  form.
-/

namespace ResourceScript

/-- The items that a value has as a sequence: a text is the sequence of its characters and a
mapping that of its keys. -/
def Value.items? : Value → Option (List Value)
  | .list items | .tuple items => some items
  | .text s => some (s.map fun c => .text [c])
  | .mapping _ entries => some (entries.map fun e => .text e.1)
  | _ => none

namespace Literal

/-- The literal of an array without items. -/
def emptyArray : Text := "@()".toList

/-- Why a value lacks a plain form: something else stands in place of the text of a literal, or the
value, or one inside of it, has no text form. -/
def formError : Value → FormError
  | .classified .verbatim _ => .notText
  | _ => .noTextForm

/-- The plain form of a value, which it may lack. -/
def plainForm (v : Value) : Except FormError Text :=
  match v.plainForm? with
  | some s => .ok s
  | none => .error (formError v)

theorem plainForm_eq_ok_iff {v : Value} {s : Text} :
    plainForm v = .ok s ↔ v.plainForm? = some s := by
  rw [plainForm]
  cases v.plainForm? <;> simp

theorem exists_plainForm_eq_error_iff {v : Value} :
    (∃ e, plainForm v = .error e) ↔ v.plainForm? = none := by
  rw [plainForm]
  cases v.plainForm? <;> simp

/-- An array literal of written items. -/
def arrayOf (separator : Text) (items : List Text) : Text :=
  '@' :: '(' :: (Text.joinWith separator items ++ [')'])

/-! ### Arrays of texts and integers -/

/-- The literal of the items that are not `null`, each written by `item`. -/
def formatItems (item : Value → Except FormError Text) (payload : Value) :
    Except FormError Text :=
  if !payload.isTruthy then .ok emptyArray
  else match payload.items? with
    | none => .error .notSequence
    | some items => do
      let written ← (items.filter (!·.isNull)).mapM item
      return arrayOf [','] written

/-- An array of double-quoted texts. -/
def formatTextArray (q : Quoting) (payload : Value) : Except FormError Text :=
  formatItems (fun v => (plainForm v).map q.quote) payload

/-- An array of plain forms, which are meant to be integers. -/
def formatIntArray (payload : Value) : Except FormError Text :=
  formatItems plainForm payload

/-! ### Hash tables -/

/-- A text between single quotes, its own single quotes doubled. -/
def singleQuoted (s : Text) : Text :=
  '\x27' :: (Text.replaceChar '\x27' ['\x27', '\x27'] s ++ ['\x27'])

/-- The value of an entry of a hash table. -/
def formatEntry : Value → Except FormError Text
  | .null => .ok "$null".toList
  | .list items | .tuple items => do
    let written ← (items.filter (!·.isNull)).mapM fun v => (plainForm v).map singleQuoted
    return arrayOf [','] written
  | v => (plainForm v).map singleQuoted

/-- The entries of a hash table between braces. -/
def hashTableOf (entries : List Text) : Text :=
  '@' :: '\x7b' :: (Text.joinWith [';', ' '] entries ++ ['\x7d'])

/-- Why a value that is not a mapping cannot be written as one. -/
def mappingError : Value → FormError
  | .classified kind _ => if kind.isArray then .arrayAsMapping else .notMapping
  | _ => .notMapping

/-- A mapping inside of an array. -/
def formatHashTable : Value → Except FormError Text
  | .mapping _ entries => do
    let written ← entries.mapM fun (k, v) => (formatEntry v).map fun t => k ++ '=' :: t
    return hashTableOf written
  | v => .error (mappingError v)

/-! ### Arrays of objects -/

/-- The first item of a sequence that has items. -/
def firstItem : Value → Except FormError Value
  | .list (v :: _) | .tuple (v :: _) => .ok v
  | .text (c :: _) => .ok (.text [c])
  | .mapping _ _ => .error .noItemAtPosition
  | _ => .error .notSequence

/-- An array of which the first item tells the shape. -/
def formatObjectArray (q : Quoting) (payload : Value) : Except FormError Text :=
  if !payload.isTruthy then .ok emptyArray
  else do
    match ← firstItem payload with
    | .text _ => formatTextArray q payload
    | .mapping _ _ =>
      let written ← ((payload.items?).getD []).mapM formatHashTable
      return arrayOf [','] written
    | _ =>
      let written ← (((payload.items?).getD []).filter (!·.isNull)).mapM plainForm
      return arrayOf [] written

/-! ### Mappings -/

/-- An entry of a mapping on its own. -/
def mappingEntry (key form : Text) : Text :=
  ' ' :: (key ++ ' ' :: '=' :: ' ' :: '\x22' :: (form ++ ['\x22', ';']))

/-- The plain form of the value of an entry; `null` has the empty one. -/
def entryForm? (v : Value) : Option Text := if v.isNull then some [] else v.plainForm?

/-- A mapping on its own.  When the value of an entry has no text form, the name of the type of
the mapping stands for all of it. -/
def formatMapping : Value → Except FormError Text
  | .mapping sort entries =>
    match entries.mapM fun (k, v) => (entryForm? v).map (mappingEntry k) with
    | some written => .ok ('@' :: '\x7b' :: (written.flatten ++ [' ', '\x7d']))
    | none => .ok (Value.mapping sort entries).typeName
  | v => .error (mappingError v)

end Literal

end ResourceScript

import ResourceScript.Block.Basic

/-!
# Rows of a block

A row holds the name, the literal and the comment of a printed value, and what is noticed on the
way to the literal: the question for the declared kind and the user that is to be registered.
Whatever fails on that way, the value is written in its plain form, or by the name of its type if it
has none.  Text that already is a literal takes no such way: it gets its text form only when it is
put in its line, and if it has none the row cannot be written.

## Main definitions

* `Block.RowLiteral` : a literal and what was noticed on the way to it.
* `Block.questionFor?` : the question that is asked about a row.
* `Block.userOf?` : the user that a literal refers to.
* `Block.faultOf?` : why a literal cannot be put in its line.
* `Block.rowLiteral` : the literal of a row.
* `Block.Row`, `Block.rowOf` : the row of a printed value.
* `Block.Row.line` : the line of a row.
* `Block.textOf` : the lines of rows.
-/

namespace ResourceScript.Block

/-- The literal of a row, the question that was asked for it, and the user to be registered.  When
there is a fault, the literal cannot be put in its line, and no line shows it. -/
structure RowLiteral where
  literal : Text
  fault : Option FormError := none
  question : Option (Text × Text) := none
  username : Option Text := none

/-- The question for the declared kind of a value, asked if the value itself does not tell it. -/
def questionFor? (ctx : Context) (nv : NamedValue) : Option (Resolver × Text × Text) :=
  match nv.kind, ctx.resolver with
  | none, some resolver =>
    if nv.value.isEmptySequence then some (resolver, ctx.resource, nv.name) else none
  | _, _ => none

/-- The user that a literal refers to.  A text that already is a reference names no user. -/
def userOf? (lead : Text) (l : Literal) : Option Text :=
  match l.kind, l.payload with
  | .credential, .credential c => some c.username
  | .credential, .text s => if Credential.isReference lead s then none else some s
  | _, _ => none

/-- What is written for a value without a literal. -/
def fallback (v : Value) : Text := v.plainForm?.getD v.typeName

/-- Why a literal cannot be put in its line, given what became of its text. -/
def faultOf? : Kind → Except FormError Text → Option FormError
  | .verbatim, .error e => some e
  | _, _ => none

/-- The literal of a value under a declared kind, and the user to be registered. -/
def literalUnder (ctx : Context) (nv : NamedValue) (kind : Option Kind) : RowLiteral :=
  match Literal.classify kind nv.value with
  | .error _ => { literal := fallback nv.value }
  | .ok l =>
    let written := Literal.format ⟨nv.name, nv.quoting, ctx.lead⟩ l
    { literal := match written with
        | .ok s => s
        | .error _ => fallback nv.value
      fault := faultOf? l.kind written
      username := ctx.registryLead.bind fun lead => userOf? lead l }

/-- The literal of a row. -/
def rowLiteral (ctx : Context) (nv : NamedValue) : RowLiteral :=
  match questionFor? ctx nv with
  | none => literalUnder ctx nv nv.kind
  | some (resolver, resource, parameter) =>
    let answered := match resolver resource parameter with
      | .declared kind => literalUnder ctx nv (some kind)
      | .undeclared => literalUnder ctx nv none
      | .failed => { literal := fallback nv.value }
    { answered with question := some (resource, parameter) }

/-- A row of a block. -/
structure Row extends RowLiteral where
  name : Text
  comment : Text := []

/-- The row of a printed value. -/
def rowOf (ctx : Context) (comments : List (Text × Text)) (nv : NamedValue) : Row :=
  { rowLiteral ctx nv with name := nv.name, comment := commentOn comments nv }

/-- The width of the column of names. -/
def nameWidth (settings : Settings) (rows : List Row) : Nat :=
  rows.foldl (fun w r => max w r.name.length) settings.minNameWidth

/-- The line of a row: the indentation, the name padded to a width, an equals sign, the literal, a
semicolon, a comment unless it is empty, and the line terminator. -/
def Row.line (settings : Settings) (width : Nat) (r : Row) : Text :=
  settings.indent ++ Text.padRight width r.name ++ ' ' :: '=' :: ' ' :: r.literal ++ ';' ::
    (if r.comment.isEmpty then [] else ' ' :: r.comment) ++ settings.lineTerminator

/-- The lines of rows, their names padded to a common width. -/
def textOf (settings : Settings) (rows : List Row) : Text :=
  (rows.map (Row.line settings (nameWidth settings rows))).flatten

end ResourceScript.Block

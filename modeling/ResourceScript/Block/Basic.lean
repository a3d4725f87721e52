import ResourceScript.Entries
import ResourceScript.Literal.Format
import ResourceScript.Settings.Basic
import ResourceScript.Text.Order

/-!
# Blocks of named values

A resource block is written from named values.  Each has a key, by which the values are sorted and
of which the last value counts, and a name, which is what is printed.  Values that are `null` are
dropped, and values whose key begins with the metadata lead are comments on other values.

## Main definitions

* `NamedValue` : a parameter of a resource block.
* `Resolver` : where declared kinds are asked for.
* `Block.Context` : what a block depends on besides its values.
* `Block.surviving` : the values that count, in the order of their keys.
* `Block.printed`, `Block.commentsOf` : the values that are printed, and the comments on them.
-/

namespace ResourceScript

/-- A parameter of a resource block, with the kind that it is declared with, if that is known. -/
structure NamedValue where
  name : Text
  value : Value := .null
  quoting : Quoting := {}
  comment : Option Text := none
  kind : Option Kind := none

/-- The answer to the question for the declared kind of a parameter. -/
inductive Resolver.Answer where
  | declared (kind : Kind)
  | undeclared
  | failed
  deriving DecidableEq

/-- Answers questions for the declared kind of a parameter of a resource. -/
abbrev Resolver := Text → Text → Resolver.Answer

namespace Block

/-- What a block depends on besides its values.  `registryLead` is what references begin with in
the registry that records the users of the block, if there is one. -/
structure Context where
  resource : Text := []
  resolver : Option Resolver := none
  registryLead : Option Text := none
  excludeMetadata : Bool := false
  settings : Settings := .standard

/-- What references to credentials begin with. -/
def Context.lead (ctx : Context) : Text := ctx.registryLead.getD ctx.settings.credentialLead

/-- The last value of each key in the dictionary order of the keys, `null` values left out. -/
def surviving (values : List (Text × NamedValue)) : List (Text × NamedValue) :=
  ((Entries.ofList values).mergeSort fun a b => Text.le a.1 b.1).filter (!·.2.value.isNull)

/-- Whether a key belongs to a comment. -/
def isMetadata (settings : Settings) (key : Text) : Bool := settings.metadataLead.isPrefixOf key

/-- The values that are printed. -/
def printed (settings : Settings) (values : List (Text × NamedValue)) : List NamedValue :=
  ((surviving values).filter (!isMetadata settings ·.1)).map (·.2)

/-- The comments by the names of the rows that they belong to, unless a value that has no text form
is among them. -/
def commentsOf (ctx : Context) (values : List (Text × NamedValue)) :
    Except FormError (List (Text × Text)) :=
  if ctx.excludeMetadata then .ok []
  else
    ((surviving values).filter (isMetadata ctx.settings ·.1)).mapM fun (key, nv) =>
      (Literal.plainForm nv.value).map fun s => (key.drop ctx.settings.metadataLead.length, s)

/-- The comment on a row: its own one unless that is empty, else the one of its metadata. -/
def commentOn (comments : List (Text × Text)) (nv : NamedValue) : Text :=
  match nv.comment with
  | some (c :: s) => c :: s
  | _ => (comments.lookup nv.name).getD []

end Block

end ResourceScript

import ResourceScript.Block.Row
import ResourceScript.Credential.Registry

/-!
# Written blocks

The text of a block is one line for each row.  Rows are written one after the other.  Besides the
text, the users to be registered and the questions that were asked are returned, also when a row
cannot be written.

## Main definitions

* `Block.Failure` : why a block cannot be written.
* `Block.Rendering` : the text or the failure, the users and the questions.
* `Block.writeRows` : the lines of rows, up to the first row that cannot be written.
* `Block.render` : the text of a block.
* `Block.renderResource` : the text of a block with its header.
-/

namespace ResourceScript.Block

/-- Why a block cannot be written. -/
inductive Failure where
  /-- A comment has no text form. -/
  | comment (e : FormError)
  /-- The column of names is too wide to be counted. -/
  | uncountableWidth
  /-- A literal has no text form. -/
  | literal (e : FormError)
  deriving DecidableEq

/-- The outcome of writing a block, with the users to be registered and the questions asked, both
in order. -/
structure Rendering where
  outcome : Except Failure Text
  usernames : List Text := []
  questions : List (Text × Text) := []

/-- Registers the users of a block. -/
def Rendering.register (r : Rendering) (registry : Registry) : Registry :=
  registry.saveAll r.usernames

/-- The least width that cannot be counted in a signed word of 64 bits. -/
def uncountableWidth : Nat := 0x8000000000000000

/-- Why the line of a row cannot be written.  The name is padded before the literal is put in. -/
def Row.failure? (width : Nat) (r : Row) : Option Failure :=
  if uncountableWidth ≤ width then some .uncountableWidth else r.fault.map .literal

/-- The rendering that has made the literals of the given rows. -/
def renderingOf (outcome : Except Failure Text) (rows : List Row) : Rendering where
  outcome := outcome
  usernames := rows.filterMap (·.username)
  questions := rows.filterMap (·.question)

/-- Writes rows one after the other, up to the first one of which the line cannot be written.  The
literal of that one has been made by then. -/
def writeRows (settings : Settings) (width : Nat) : List Row → Rendering
  | [] => { outcome := .ok [] }
  | r :: rows =>
    match r.failure? width with
    | some failure => renderingOf (.error failure) [r]
    | none =>
      let rest := writeRows settings width rows
      { outcome := rest.outcome.map (r.line settings width ++ ·)
        usernames := r.username.toList ++ rest.usernames
        questions := r.question.toList ++ rest.questions }

/-- The text of a block.  Comments are looked at before any row. -/
def render (ctx : Context) (values : List (Text × NamedValue)) : Rendering :=
  match commentsOf ctx values with
  | .error e => { outcome := .error (.comment e) }
  | .ok comments =>
    let rows := (printed ctx.settings values).map (rowOf ctx comments)
    writeRows ctx.settings (nameWidth ctx.settings rows) rows

/-- The header of a resource, its block between braces, and the closing brace. -/
def withHeader (settings : Settings) (resource instanceName body : Text) : Text :=
  let outer := settings.resourceIndent
  let nl := settings.lineTerminator
  outer ++ resource ++ ' ' :: '\x22' :: instanceName ++ '\x22' :: nl ++
    outer ++ '\x7b' :: nl ++ body ++ outer ++ '\x7d' :: nl

/-- The text of a block with its header. -/
def renderResource (ctx : Context) (instanceName : Text) (values : List (Text × NamedValue)) :
    Rendering :=
  let r := render ctx values
  { r with outcome := r.outcome.map (withHeader ctx.settings ctx.resource instanceName) }

end ResourceScript.Block

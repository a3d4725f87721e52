import ResourceScript.Unquote.Assignment
import ResourceScript.Unquote.Boundary
import ResourceScript.Unquote.Tidy

/-!
# Stripping quotes

Turns the quoted literal of one parameter into an expression: the boundary quotes of its value are
deleted, and a composite value is tidied afterwards.

## Main definitions

* `Unquote.stripQuotes` : a block with the boundary quotes of one parameter stripped.

## Main results

* `Unquote.stripQuotes_of_not_assigned` : without an assignment the block stays as it is.
-/

namespace ResourceScript.Unquote

/-- The block without the boundary quotes of the value of a parameter.  For a composite value
nested quotes are kept and the result is tidied. -/
def stripQuotes (settings : Settings) (composite : Bool) (name block : Text) :
    Except Template.Fault Text :=
  match findAssignment? name block with
  | none => .ok block
  | some start =>
    let stop := statementStop settings block start
    match boundaries block start stop composite with
    | [] => .ok block
    | paired =>
      let stripped := Text.deleteAt paired block
      if composite then tidy settings stripped start else .ok stripped

/-- Without an assignment of the parameter the block stays as it is. -/
theorem stripQuotes_of_not_assigned {settings : Settings} {composite : Bool} {name block : Text}
    (h : findAssignment? name block = none) :
    stripQuotes settings composite name block = .ok block := by
  simp [stripQuotes, h]

end ResourceScript.Unquote

import ResourceScript.Unquote.Quotes

/-!
# Boundary quotes

The quotes of a statement are paired from left to right.  In a composite value a quote that opens
a nested literal does not close the current one: it is passed over together with the quote that
closes the nested literal.  An opening quote that no further double quote follows is closed by
the next single quote.

## Main definitions

* `Unquote.opensNested` : whether a quote opens a nested literal.
* `Unquote.boundariesFrom` : the paired quotes among given ones.
* `Unquote.boundaries` : the paired quotes of a statement.
-/

namespace ResourceScript.Unquote

/-- Whether an equals sign stands before a position, directly or with one blank between. -/
def opensNested (s : Text) (pos : Nat) : Bool :=
  match (s.take pos).reverse with
  | '=' :: _ => true
  | ' ' :: '=' :: _ => true
  | _ => false

/-- Where the pairing stands: between two pairs, behind an opening quote, or inside of a literal
that is nested in the one with that opening quote. -/
inductive Phase where
  | outside
  | opened (start : Nat)
  | nested (start : Nat)

/-- The single quote that closes a literal which no double quote closes. -/
def closingSingleQuote? (s : Text) (start : Nat) : Option Nat :=
  Text.findFrom? ['\x27'] s (start + 1)

/-- The quotes that form pairs and begin before `stop`, among the given ones. -/
def boundariesFrom (s : Text) (stop : Nat) (composite : Bool) : Phase → List Nat → List Nat
  | _, [] => []
  | .outside, start :: rest =>
    if start < stop then
      if rest.isEmpty then
        match closingSingleQuote? s start with
        | some last => if last ≤ stop then [start, last] else []
        | none => []
      else boundariesFrom s stop composite (.opened start) rest
    else []
  | .opened start, last :: rest =>
    if composite && opensNested s last then boundariesFrom s stop composite (.nested start) rest
    else if last ≤ stop then start :: last :: boundariesFrom s stop composite .outside rest
    else []
  | .nested start, _ :: rest => boundariesFrom s stop composite (.opened start) rest

/-- The paired quotes of the statement that begins at `start` and ends at `stop`. -/
def boundaries (s : Text) (start stop : Nat) (composite : Bool) : List Nat :=
  boundariesFrom s stop composite .outside (quotesFrom s start)

end ResourceScript.Unquote

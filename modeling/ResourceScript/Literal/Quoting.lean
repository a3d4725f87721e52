import ResourceScript.Text.Escaped

/-!
# Double-quoted literals

How a text becomes a double-quoted literal.

## Main definitions

* `Quoting` : whether a text is escaped, and whether variables in it stay variables.
* `Quoting.quote` : the double-quoted literal of a text.
-/

namespace ResourceScript

/-- How a text is put between double quotes.  With `noEscape` it is taken as it is. -/
structure Quoting where
  noEscape : Bool := false
  allowVariables : Bool := false
  deriving DecidableEq

namespace Quoting

/-- The text between the quotes of a literal. -/
def body (q : Quoting) (s : Text) : Text :=
  if q.noEscape then s else Text.escape q.allowVariables s

/-- The double-quoted literal of a text. -/
def quote (q : Quoting) (s : Text) : Text := '\x22' :: (q.body s ++ ['\x22'])

end Quoting

end ResourceScript

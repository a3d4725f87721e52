import ResourceScript.Text.Escaped

/-!
# Unescaped quotes

A double quote is escaped when an odd number of backticks stands directly before it.

## Main definitions

* `Unquote.isEscaped` : whether the character at a position is escaped.
* `Unquote.quotes` : the positions of the unescaped double quotes.
* `Unquote.quotesFrom`, `Unquote.nextQuote?` : those at or after a position, and the first of them.
* `Unquote.visited` : the positions that a lexer visits which steps over each backtick together
  with the character after it.
-/

namespace ResourceScript.Unquote

/-- The number of backticks directly before a position. -/
def backticksBefore (s : Text) (pos : Nat) : Nat :=
  ((s.take pos).reverse.takeWhile (· == Text.escapeLead)).length

/-- Whether an odd number of backticks stands directly before a position. -/
def isEscaped (s : Text) (pos : Nat) : Bool := backticksBefore s pos % 2 == 1

/-- The positions of the unescaped double quotes in ascending order. -/
def quotes (s : Text) : List Nat :=
  s.zipIdx.filterMap fun (c, i) => if c = '\x22' ∧ !isEscaped s i then some i else none

/-- The positions of the unescaped double quotes at or after a position. -/
def quotesFrom (s : Text) (pos : Nat) : List Nat := (quotes s).filter (pos ≤ ·)

/-- The first unescaped double quote at or after a position. -/
def nextQuote? (s : Text) (pos : Nat) : Option Nat := (quotesFrom s pos).head?

/-- The positions that a lexer visits which reads from left to right and steps over each backtick
together with the character after it; `pos` is the position of the text. -/
def visited (pos : Nat) : Text → List Nat
  | [] => []
  | [_] => [pos]
  | c :: d :: s =>
    if c = Text.escapeLead then pos :: visited (pos + 2) s else pos :: visited (pos + 1) (d :: s)

end ResourceScript.Unquote

import ResourceScript.Text.Numeral
import ResourceScript.Text.Printable

/-!
# Quoted texts

The quoted form in which a text appears inside the printed form of a composite value.  The text
stands between single quotes, or between double quotes when it holds single quotes only.  The
quote in use, the backslash and the unprintable characters are written as escape sequences.

## Main definitions

* `Text.quoteFor` : the quote that a text is written with.
* `Text.escapeIn` : the written form of one character between such quotes.
* `Text.quoted` : the quoted form.
-/

namespace ResourceScript.Text

/-- The double quote. -/
def doubleQuote : Char := '\x22'

/-- The single quote. -/
def singleQuote : Char := '\x27'

/-- The quote around a text: the single one, unless only the double one is free. -/
def quoteFor (s : Text) : Char :=
  if singleQuote ∈ s ∧ doubleQuote ∉ s then doubleQuote else singleQuote

/-- The written form of a character between two quotes of the given kind. -/
def escapeIn (quote c : Char) : Text :=
  if c = quote ∨ c = '\\' then ['\\', c]
  else if c = '\n' then ['\\', 'n']
  else if c = '\r' then ['\\', 'r']
  else if c = '\t' then ['\\', 't']
  else if isPrintable c then [c]
  else if c.toNat < 0x100 then '\\' :: 'x' :: hexNumeral 2 c.toNat
  else if c.toNat < 0x10000 then '\\' :: 'u' :: hexNumeral 4 c.toNat
  else '\\' :: 'U' :: hexNumeral 8 c.toNat

/-- The quoted form of a text. -/
def quoted (s : Text) : Text :=
  quoteFor s :: (s.flatMap (escapeIn (quoteFor s)) ++ [quoteFor s])

end ResourceScript.Text

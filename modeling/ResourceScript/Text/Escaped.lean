import ResourceScript.Text.Basic

/-!
# Escaped texts

Inside of a double-quoted literal the backtick takes the special meaning from the character after
it.  A text is escaped by replacing one special character after the other, the backtick first, so
that the backticks that are written later are not escaped again.

The same form is written in one pass by `Text.escapeOnce`, and `Text.unescape` reads it back.

## Main definitions

* `Text.escape` : the escaped form of a text.
* `Text.escapeOnce` : the escaped form, written in one pass.
* `Text.unescape` : the text of an escaped form.
-/

namespace ResourceScript.Text

/-- The backtick, which takes the special meaning from the next character. -/
def escapeLead : Char := '\x60'

/-- The sign that begins a variable. -/
def variableSigil : Char := '$'

/-- The three typographic double quotes, each of which also ends a literal. -/
def typographicQuotes : List Char := [Char.ofNat 0x201e, Char.ofNat 0x201c, Char.ofNat 0x201d]

/-- Writes a backtick before each occurrence of a character. -/
def escapeChar (c : Char) (s : Text) : Text := replaceChar c [escapeLead, c] s

/-- The escaped form of a text.  Variables stay variables when `allowVariables` holds. -/
def escape (allowVariables : Bool) (s : Text) : Text :=
  let doubled := escapeChar escapeLead s
  let sigilsEscaped := if allowVariables then doubled else escapeChar variableSigil doubled
  escapeChar '\x22' (typographicQuotes.foldl (fun t c => escapeChar c t) sigilsEscaped)

/-- Whether a character is special inside of a double-quoted literal. -/
def isSpecial (allowVariables : Bool) (c : Char) : Bool :=
  c == escapeLead || c == '\x22' || typographicQuotes.contains c ||
    (!allowVariables && c == variableSigil)

/-- The escaped form of a text, written in one pass: a backtick before each special character. -/
def escapeOnce (allowVariables : Bool) (s : Text) : Text :=
  s.flatMap fun c => if isSpecial allowVariables c then [escapeLead, c] else [c]

/-- Reads an escaped form from left to right: each backtick is dropped and the character after it
is kept as it is. -/
def unescape : Text → Text
  | [] => []
  | [c] => if c = escapeLead then [] else [c]
  | c :: d :: s => if c = escapeLead then d :: unescape s else c :: unescape (d :: s)

@[simp] theorem escape_nil (allowVariables : Bool) : escape allowVariables [] = [] := by
  cases allowVariables <;> rfl

end ResourceScript.Text

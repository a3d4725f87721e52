import ResourceScript.Settings.Basic
import ResourceScript.Text.Escaped
import ResourceScript.Text.Template

/-!
# Tidying a composite value

When the quotes around a composite value are gone, the quotes inside of it need no escaping any
more, the closing parenthesis goes to a line of its own, and separators that stand alone on a line
or follow a brace are dropped.

## Main definitions

* `Unquote.statementStop` : where the statement ends that begins at a position.
* `Unquote.openStatement` : the text of a statement without its escapes.
* `Unquote.loneSeparatorLength` : the length of a line with a separator only.
* `Unquote.tidy` : the tidied block.
-/

namespace ResourceScript.Unquote

/-- Where the statement ends that begins at a position: at the first statement end, else at the
end of the text. -/
def statementStop (settings : Settings) (block : Text) (start : Nat) : Nat :=
  (Text.findFrom? settings.statementEnd block start).getD block.length

/-- A statement with its double quotes unescaped.  A parenthesis that closes a list right after a
quote goes to a line of its own. -/
def openStatement (settings : Settings) (statement : Text) : Text :=
  let plain := Text.replaceAll [Text.escapeLead, '\x22'] ['\x22'] statement
  if ['\x22', ')'].isSuffixOf plain then
    plain.dropLast ++ settings.lineTerminator ++ settings.indent ++ [')']
  else plain

/-- The length of what begins a text: a line terminator, blanks, a comma or a semicolon, and
another line terminator.  It is `0` when the text begins otherwise. -/
def loneSeparatorLength (terminator s : Text) : Nat :=
  match Text.dropIfPrefix? terminator s with
  | none => 0
  | some line =>
    match line.dropWhile Text.isBlank with
    | [] => 0
    | c :: rest =>
      if (c = ',' ∨ c = ';') ∧ terminator.isPrefixOf rest then
        s.length - rest.length + terminator.length
      else 0

/-- Replaces each line with a separator only by the line terminator, which is read as a template. -/
def dropLoneSeparators (terminator s : Text) : Except Template.Fault Text :=
  (Template.parse terminator).map fun template =>
    Text.substituteMatches (loneSeparatorLength terminator) (Template.expand template) s

/-- Drops the comma between a closing brace and the end of its line. -/
def dropCommaAfterBrace (terminator s : Text) : Text :=
  Text.replaceAll ('\x7d' :: ',' :: terminator) ('\x7d' :: terminator) s

/-- Tidies the statement that begins at a position, and the separators of the whole block. -/
def tidy (settings : Settings) (block : Text) (start : Nat) : Except Template.Fault Text :=
  let stop := statementStop settings block start
  let statement := (block.take stop).drop start
  let opened := block.take start ++ openStatement settings statement ++ block.drop stop
  (dropLoneSeparators settings.lineTerminator opened).map
    (dropCommaAfterBrace settings.lineTerminator)

end ResourceScript.Unquote

import ResourceScript.Text.DecimalDigit
import ResourceScript.Text.Identifier

/-!
# Replacement templates

A replacement template is a text in which a backslash begins an escape sequence: control
characters by letter, characters by octal number, and references to a group of the match.  The
patterns of this library have no groups, so only group zero, the match as a whole, may be
referred to.

## Main definitions

* `Template.Part`, `Template.Fault` : the parts of a template, and what is wrong with one.
* `Template.parse` : the parts of a template.
* `Template.expand` : the text that replaces a match.

## Main results

* `Template.expand_map_char` : a template that consists of characters stands for itself.
-/

namespace ResourceScript.Template

/-- A part of a template: a character, or the text of the match. -/
inductive Part where
  | char (c : Char)
  | matched
  deriving DecidableEq

/-- What is wrong with a template. -/
inductive Fault where
  | malformed
  | unknownGroup
  deriving DecidableEq

/-- Whether a character is an octal digit. -/
def isOctalDigit (c : Char) : Bool := '0' ≤ c && c ≤ '7'

/-- The value of octal digits. -/
def octalValue (s : Text) : Nat := s.foldl (fun n c => n * 8 + (c.toNat - 48)) 0

/-- The control character that a letter stands for after a backslash. -/
def controlChar? : Char → Option Char
  | 'a' => some '\x07'
  | 'b' => some '\x08'
  | 'f' => some '\x0c'
  | 'n' => some '\n'
  | 'r' => some '\r'
  | 't' => some '\t'
  | 'v' => some '\x0b'
  | '\\' => some '\\'
  | _ => none

/-- The group that a name between angle brackets refers to.  `rest` is what follows the closing
bracket; a lone backslash at the very end is noticed before an unknown name is. -/
def groupNamed (name rest : Text) : Except Fault Part :=
  if Text.isIdentifier name then
    .error (if rest = ['\\'] then .malformed else .unknownGroup)
  else if Text.integer? name = some 0 then .ok .matched
  else .error .malformed

/-- The part that a reference by name stands for, and its length; the text begins after the letter
of the reference. -/
def groupReference : Text → Except Fault (Part × Nat)
  | '<' :: s =>
    match Text.cutAt '>' s with
    | (name, some rest) => (groupNamed name rest).map fun p => (p, name.length + 2)
    | (_, none) => .error .malformed
  | _ => .error .malformed

/-- The character with a three-digit octal number. -/
def octalChar : Text → Except Fault Part
  | [c, d, e] =>
    if [c, d, e].all isOctalDigit ∧ octalValue [c, d, e] ≤ 0xff then
      .ok (.char (Char.ofNat (octalValue [c, d, e])))
    else .error .malformed
  | _ => .error .malformed

/-- The parts that an escape sequence stands for, and its length without the backslash; the text
begins after the backslash. -/
def escapeSequence : Text → Except Fault (List Part × Nat)
  | [] => .error .malformed
  | c :: s =>
    if c = 'g' then (groupReference s).map fun (p, n) => ([p], n + 1)
    else if c = '0' then
      let digits := (s.take 2).takeWhile isOctalDigit
      .ok ([.char (Char.ofNat (octalValue digits % 0x100))], digits.length + 1)
    else if c.isDigit then (octalChar (c :: s.take 2)).map fun p => ([p], 3)
    else match controlChar? c with
      | some control => .ok ([.char control], 1)
      | none => if c.isAlpha then .error .malformed else .ok ([.char '\\', .char c], 1)

/-- The parts of a template.  The number counts the characters of the last escape sequence that
are still to be passed over. -/
def parseFrom : Nat → Text → Except Fault (List Part)
  | _, [] => .ok []
  | k + 1, _ :: s => parseFrom k s
  | 0, c :: s =>
    if c = '\\' then
      match escapeSequence s with
      | .error f => .error f
      | .ok (parts, n) => (parseFrom n s).map (parts ++ ·)
    else (parseFrom 0 s).map (.char c :: ·)

/-- The parts of a template. -/
def parse (s : Text) : Except Fault (List Part) := parseFrom 0 s

/-- The text that replaces a match. -/
def expand (parts : List Part) (found : Text) : Text :=
  parts.flatMap fun
    | .char c => [c]
    | .matched => found

/-- A template that consists of characters stands for itself. -/
@[simp] theorem expand_map_char (s found : Text) : expand (s.map .char) found = s := by
  induction s with
  | nil => rfl
  | cons c s ih => simpa [expand] using ih

end ResourceScript.Template

import ResourceScript.Text.DecimalDigit
import ResourceScript.Yaml.Event

/-!
# Tags of plain scalars

The text of a plain scalar tells its tag: truth values, integers in four bases and in base sixty,
floating-point numbers with a point, the merge sign, nothing, dates and times, and the value sign.
Everything else is a text.

## Main definitions

* `Yaml.Tag` : the tags with a meaning, and the others.
* `Yaml.isIntegerForm`, `Yaml.isFloatForm`, `Yaml.timestampOf?` : the forms of scalars.
* `Yaml.Tag.ofPlain` : the tag of a plain scalar.
-/

namespace ResourceScript.Yaml

/-- A tag. -/
inductive Tag where
  | null
  | bool
  | int
  | float
  | binary
  | timestamp
  | text
  | sequence
  | mapping
  | orderedPairs
  | pairs
  | set
  | merge
  | value
  | unknown
  deriving DecidableEq

/-- The names of the tags with a meaning. -/
def Tag.names : List (Text × Tag) :=
  [("null".toList, null), ("bool".toList, bool), ("int".toList, int), ("float".toList, float),
   ("binary".toList, binary), ("timestamp".toList, timestamp), ("str".toList, text),
   ("seq".toList, sequence), ("map".toList, mapping), ("omap".toList, orderedPairs),
   ("pairs".toList, pairs), ("set".toList, set), ("merge".toList, merge),
   ("value".toList, value)]

/-- The tag with a full name. -/
def Tag.ofName (s : Text) : Tag :=
  ((Text.dropIfPrefix? "tag:yaml.org,2002:".toList s).bind (names.lookup ·)).getD unknown

/-! ### Numbers -/

/-- A text without one sign at its head. -/
def dropSign : Text → Text
  | c :: s => if c = '+' ∨ c = '-' then s else c :: s
  | [] => []

/-- Whether a character is a digit or an underscore. -/
def isDigitOrBar (c : Char) : Bool := Text.isDigit c || c == '_'

/-- Whether a text is not empty and consists of characters of a class. -/
def isAll (p : Char → Bool) (s : Text) : Bool := !s.isEmpty && s.all p

/-- Splits a text at each colon. -/
def splitColons (s : Text) : List Text := s.splitOn ':'

/-- Whether a text is a place below sixty, of one or two digits. -/
def isSixtieth : Text → Bool
  | [d] => Text.isDigit d
  | [d, e] => '0' ≤ d && d ≤ '5' && Text.isDigit e
  | _ => false

/-- Whether a text has places below sixty after its first place. -/
def isSexagesimal (first : Text → Bool) (s : Text) : Bool :=
  match splitColons s with
  | head :: place :: places => first head && (place :: places).all isSixtieth
  | _ => false

/-- Whether a text is a digit that is not zero, followed by digits and underscores. -/
def isDecimal : Text → Bool
  | d :: s => '1' ≤ d && d ≤ '9' && s.all isDigitOrBar
  | [] => false

/-- Whether a text has the form of an integer. -/
def isIntegerForm (s : Text) : Bool :=
  let t := dropSign s
  isDecimal t || isSexagesimal isDecimal t ||
    match t with
    | ['0'] => true
    | '0' :: 'b' :: r => isAll (fun c => c == '0' || c == '1' || c == '_') r
    | '0' :: 'x' :: r => isAll (fun c => (Text.digitIn? 16 c).isSome || c == '_') r
    | '0' :: r => isAll (fun c => (Text.digitIn? 8 c).isSome || c == '_') r
    | _ => false

/-- Whether a text is an exponent with its sign, or empty. -/
def isExponentForm : Text → Bool
  | [] => true
  | [_] => false
  | e :: sign :: s => (e == 'e' || e == 'E') && (sign == '+' || sign == '-') && isAll Text.isDigit s

/-- Whether a text is a digit followed by digits and underscores. -/
def isDigits : Text → Bool
  | d :: s => Text.isDigit d && s.all isDigitOrBar
  | [] => false

/-- Whether a text has the form of a floating-point number. -/
def isFloatForm (s : Text) : Bool :=
  let t := dropSign s
  let (whole, fraction?) := Text.cutAt '.' t
  match fraction? with
  | none => false
  | some fraction =>
    let tail := fraction.dropWhile isDigitOrBar
    (isDigits whole && isExponentForm tail) ||
    (isSexagesimal isDigits whole && tail.isEmpty) ||
    (whole.isEmpty && ["inf".toList, "Inf".toList, "INF".toList].contains fraction) ||
    (whole.isEmpty && t == s &&
      ((isDigits (fraction.takeWhile isDigitOrBar) && isExponentForm tail) ||
        ["nan".toList, "NaN".toList, "NAN".toList].contains fraction))

/-! ### Dates and times -/

/-- A date with an optional time.  The offset is given in minutes, and `some none` stands for the
zero offset without digits. -/
structure Timestamp where
  year : Nat
  month : Nat
  day : Nat
  time : Option (Nat × Nat × Nat) := none
  fraction : Text := []
  offset : Option (Option (Bool × Nat × Nat)) := none
  deriving DecidableEq

/-- Takes between `least` and `most` digits. -/
def takeDigits? (least most : Nat) (s : Text) : Option (Nat × Text) :=
  let digits := (s.take most).takeWhile Text.isDigit
  if digits.length < least then none else some (Text.digitsValue digits, s.drop digits.length)

/-- Takes one given character. -/
def takeChar? (c : Char) : Text → Option Text
  | d :: s => if d = c then some s else none
  | [] => none

/-- Reads an offset from universal time up to the end of a text. -/
def offsetOf? (s : Text) : Option (Option (Option (Bool × Nat × Nat))) :=
  match s.dropWhile fun c => c == ' ' || c == '\t' with
  | [] => if s.isEmpty then some none else none
  | ['Z'] => some (some none)
  | sign :: rest =>
    if sign ≠ '+' ∧ sign ≠ '-' then none
    else do
      let (hours, rest) ← takeDigits? 1 2 rest
      match rest with
      | [] => some (some (some (sign == '-', hours, 0)))
      | _ =>
        let (minutes, rest) ← (takeChar? ':' rest).bind (takeDigits? 2 2)
        if rest.isEmpty then some (some (some (sign == '-', hours, minutes))) else none

/-- Reads a time and an offset up to the end of a text. -/
def timeOf? (date : Timestamp) (s : Text) : Option Timestamp := do
  let (hour, s) ← takeDigits? 1 2 s
  let (minute, s) ← (takeChar? ':' s).bind (takeDigits? 2 2)
  let (second, s) ← (takeChar? ':' s).bind (takeDigits? 2 2)
  let (fraction, s) := match s with
    | '.' :: s => (s.takeWhile Text.isDigit, s.dropWhile Text.isDigit)
    | _ => ([], s)
  let offset ← offsetOf? s
  return { date with time := some (hour, minute, second), fraction, offset }

/-- Reads what separates a time from a date. -/
def timeSeparator? : Text → Option Text
  | [] => none
  | c :: s =>
    if c = 'T' ∨ c = 't' then some s
    else if c = ' ' ∨ c = '\t' then some (s.dropWhile fun c => c == ' ' || c == '\t')
    else none

/-- Reads a date with an optional time. -/
def timestampOf? (s : Text) : Option Timestamp := do
  let (year, s) ← takeDigits? 4 4 s
  let (month, s) ← (takeChar? '-' s).bind (takeDigits? 1 2)
  let (day, s) ← (takeChar? '-' s).bind (takeDigits? 1 2)
  let date : Timestamp := { year, month, day }
  if s.isEmpty then return date else (timeSeparator? s).bind (timeOf? date)

/-- Whether a text has the form of a date or a time.  A date alone has two digits for the month
and two for the day. -/
def isTimestampForm (s : Text) : Bool :=
  (timestampOf? s).any fun t => t.time.isSome || s.length == 10

/-! ### The tag of a plain scalar -/

/-- The words for truth values, in lower case, with their values. -/
def truthWords : List (Text × Bool) :=
  [("yes".toList, true), ("no".toList, false), ("true".toList, true), ("false".toList, false),
   ("on".toList, true), ("off".toList, false)]

/-- Whether a text is a word in lower case, in upper case or with a capital. -/
def isCasingOf (word s : Text) : Bool :=
  let upper := word.map Char.toUpper
  s == word || s == upper || s == upper.take 1 ++ word.drop 1

/-- Whether a text stands for nothing. -/
def isNullForm (s : Text) : Bool := s.isEmpty || s == ['~'] || isCasingOf "null".toList s

/-- The tag of a plain scalar. -/
def Tag.ofPlain (s : Text) : Tag :=
  if truthWords.any fun (w, _) => isCasingOf w s then bool
  else if isFloatForm s then float
  else if isIntegerForm s then int
  else if s = ['<', '<'] then merge
  else if isNullForm s then null
  else if isTimestampForm s then timestamp
  else if s = ['='] then value
  else if s = ['!'] ∨ s = ['&'] ∨ s = ['*'] then unknown
  else text

end ResourceScript.Yaml

import ResourceScript.Settings.Validation
import ResourceScript.Text.LineEnds
import ResourceScript.Yaml.Document

/-!
# Settings files

Settings may be written down in a YAML file, as a mapping from the keys of fields to their values.
A file without content supplies nothing.

## Main definitions

* `Settings.Source` : where settings come from.
* `Settings.LoadFailure` : why settings cannot be loaded.
* `Settings.load` : the settings of a source.
-/

namespace ResourceScript.Settings

/-- Where settings come from: nowhere, or what is found at a path. -/
inductive Source where
  | defaults
  | missing
  | directory
  | file (octets : List UInt8)

/-- Why settings cannot be loaded. -/
inductive LoadFailure where
  | missing
  | directory
  | undecodable
  | unreadable (fault : Yaml.Fault)
  | notMapping
  | invalid (issues : List Issue)
  deriving DecidableEq

/-- The explanation of a failure, where it names the path. -/
def LoadFailure.message? (path : Text) : LoadFailure → Option Text
  | missing => some ("settings file not found at ".toList ++ path)
  | notMapping => some (path ++ ": expected a mapping at the top level".toList)
  | _ => none

/-- Whether a document may hold a character: the tab, the line ends, and everything printable. -/
def isDocumentChar (c : Char) : Bool :=
  let n := c.toNat
  n == 0x9 || n == 0xa || n == 0xd || (0x20 ≤ n && n ≤ 0x7e) || n == 0x85 ||
    (0xa0 ≤ n && n ≤ 0xd7ff) || (0xe000 ≤ n && n ≤ 0xfffd) || 0x10000 ≤ n

/-- What the document of a text stands for. -/
def readDocument (s : Text) : Except Yaml.Fault Yaml.Document :=
  if s.all isDocumentChar then Yaml.Document.ofText s else .error .unprintable

/-! ### From documents to supplied settings -/

/-- The datum that a scalar supplies. -/
def Datum.ofScalar : Yaml.Scalar → Datum
  | .bool b => .bool b
  | .int n => .int n
  | .float x => .float x
  | .text s => .text s
  | .octets bytes => .octets bytes
  | .null | .time _ => .other

/-- A call with named arguments. -/
def callText (name : Text) (arguments : List Text) : Text :=
  name ++ '(' :: (Text.joinWith ", ".toList arguments ++ [')'])

/-- The text of an offset from universal time in minutes. -/
def offsetText (negative : Bool) (minutes : Nat) : Text :=
  if minutes = 0 then "datetime.timezone.utc".toList
  else
    let arguments :=
      if negative then ["days=-1".toList, "seconds=".toList ++ Text.ofNat ((1440 - minutes) * 60)]
      else ["seconds=".toList ++ Text.ofNat (minutes * 60)]
    callText "datetime.timezone".toList [callText "datetime.timedelta".toList arguments]

/-- The millionths of a second that a fraction stands for. -/
def microseconds (fraction : Text) : Nat :=
  Text.digitsValue ((fraction ++ List.replicate 6 '0').take 6)

/-- The text of a date or time that is a key. -/
def timestampText (t : Yaml.Timestamp) : Text :=
  let date := [t.year, t.month, t.day]
  match t.time with
  | none => callText "datetime.date".toList (date.map Text.ofNat)
  | some (h, m, s) =>
    let micro := microseconds t.fraction
    let seconds := if micro ≠ 0 then [s, micro] else if s ≠ 0 then [s] else []
    let zone := match t.offset with
      | none => []
      | some none => ["tzinfo=".toList ++ offsetText false 0]
      | some (some (negative, hours, minutes)) =>
        ["tzinfo=".toList ++ offsetText negative (hours * 60 + minutes)]
    callText "datetime.datetime".toList ((date ++ [h, m] ++ seconds).map Text.ofNat ++ zone)

/-- The place of an integer key: the integer, or its text when it does not fit into 64 bits. -/
def integerStep (n : Int) : Step :=
  if -wordBound ≤ n ∧ n < wordBound then .index n else .name (Text.ofInt n)

/-- The key that a scalar is. -/
def Key.ofScalar : Yaml.Scalar → Key
  | .text s => .text s
  | .null => .other (.name "None".toList)
  | .bool b => .other (.index (if b then 1 else 0))
  | .int n => .other (integerStep n)
  | .float x => .other (.name x.toText)
  | .octets bytes => .other (.name ((Text.ofOctets? bytes).getD []))
  | .time t => .other (.name (timestampText t))

/-- The settings that a document supplies.  Nothing, false, zero and everything empty supply no
settings. -/
def supplyOf? : Yaml.Document → Option Supply
  | .mapping entries => some (entries.map fun (k, v) =>
      (Key.ofScalar k, (v.map Datum.ofScalar).getD .other))
  | .sequence isEmpty | .set isEmpty => if isEmpty then some [] else none
  | .scalar .null | .scalar (.bool false) | .scalar (.int 0) | .scalar (.text [])
  | .scalar (.octets []) => some []
  | .scalar (.float x) => if x.isZero then some [] else none
  | .scalar _ => none

/-- The settings that the octets of a file supply. -/
def ofOctets (octets : List UInt8) : Except LoadFailure Settings :=
  match Text.ofOctets? octets with
  | none => .error .undecodable
  | some s =>
    match readDocument (Text.normalizeLineEnds s) with
    | .error f => .error (.unreadable f)
    | .ok d =>
      match supplyOf? d with
      | none => .error .notMapping
      | some supply => (validate supply).mapError .invalid

/-- The settings of a source. -/
def load : Source → Except LoadFailure Settings
  | .defaults => .ok standard
  | .missing => .error .missing
  | .directory => .error .directory
  | .file octets => ofOctets octets

end ResourceScript.Settings

import JoinTrust.Yaml.Number
import JoinTrust.Yaml.Pattern

set_option autoImplicit false

/-!
What a scalar stands for. A text without quotes is a number, a truth value or nothing at all if it is
written like one; which forms count depends on the version of the language that a document declares.
-/

namespace JoinTrust.Yaml

inductive Version where
  | earlier
  | current
deriving DecidableEq, Repr

inductive Scalar where
  | null
  | bool (value : Bool)
  | number (value : Number)
  | text (text : String)
  | special
  | merge
deriving DecidableEq, Repr

inductive Form where
  | null
  | yes
  | no
  | int
  | float
  | timestamp
deriving DecidableEq, Repr

namespace Form

open Pattern

def yesWords : Version → List String
  | .current => ["true", "True", "TRUE"]
  | .earlier => ["Y", "y", "yes", "Yes", "YES", "true", "True", "TRUE", "on", "On", "ON"]

def noWords : Version → List String
  | .current => ["false", "False", "FALSE"]
  | .earlier => ["N", "n", "no", "No", "NO", "false", "False", "FALSE", "off", "Off", "OFF"]

def hexDigit : Pattern :=
  oneOf "0123456789abcdefABCDEF"

def groups : Pattern :=
  digit ++ .many grouped

def sixties : Pattern :=
  Pattern.some (char ':' ++ optional (oneOf "012345") ++ digit)

/-- Integers. The earlier version has binary numbers and numbers in groups of sixty, marks octal
numbers with a zero alone, and allows underscores among the digits. -/
def integers : Version → Pattern
  | .current =>
    (word "0o" ++ Pattern.some (oneOf "01234567")) |||
      (sign ++ Pattern.some digit) |||
      (word "0x" ++ Pattern.some hexDigit)
  | .earlier =>
    sign ++
      ((word "0b" ++ Pattern.some (oneOf "01_")) |||
        groups |||
        (word "0x" ++ Pattern.some (hexDigit ||| char '_')) |||
        (groups ++ sixties))

def power : Pattern :=
  oneOf "eE" ++ sign ++ Pattern.some digit

def notFinite : Pattern :=
  (sign ++ words [".inf", ".Inf", ".INF"]) ||| words [".nan", ".NaN", ".NAN"]

def floats : Version → Pattern
  | .current =>
    let small := char '.' ++ Pattern.some digit
    let whole := Pattern.some digit
    let places := char '.' ++ .many digit
    notFinite |||
      (sign ++ (small ||| (whole ++ optional places)) ++ power) |||
      (sign ++ (small ||| (whole ++ places)))
  | .earlier =>
    let places := char '.' ++ .many grouped
    notFinite |||
      (sign ++ optional groups ++ optional places ++ power) |||
      (sign ++ optional groups ++ places) |||
      (sign ++ groups ++ sixties ++ places)

def timestamps : Pattern :=
  let short := digit ++ optional digit
  let spacing := oneOf " \t"
  let date := times 4 digit ++ char '-' ++ short ++ char '-' ++ short
  let places := optional (char '.' ++ Pattern.some digit)
  let time := short ++ char ':' ++ short ++ char ':' ++ short ++ places
  let offset := oneOf "+-" ++ optional (oneOf "012") ++ digit ++
    optional (optional (char ':') ++ times 2 digit)
  let zone := optional (.many spacing ++ (char 'Z' ||| offset))
  date ++ optional ((oneOf "tT" ||| Pattern.some spacing) ++ time ++ zone)

def pattern (version : Version) : Form → Pattern
  | .null => words ["", "~", "null", "Null", "NULL"]
  | .yes => words (yesWords version)
  | .no => words (noWords version)
  | .int => integers version
  | .float => floats version
  | .timestamp =>
    match version with
    | .current => .never
    | .earlier => timestamps

def isFormOf (version : Version) (text : List Char) (form : Form) : Bool :=
  (form.pattern version).accepts text

def value (text : List Char) : Form → Scalar
  | .null => .null
  | .yes => .bool true
  | .no => .bool false
  | .int => .number (.ofText text)
  | .float => .number (.ofText text)
  | .timestamp => .special

def all : List Form :=
  [.null, .yes, .no, .int, .float, .timestamp]

end Form

namespace Scalar

def same : Scalar → Scalar → Bool
  | .null, .null => true
  | .bool left, .bool right => left == right
  | .number left, .number right => left.same right
  | .text left, .text right => left == right
  | _, _ => false

def ofText (text : List Char) : Scalar :=
  .text (String.ofList text)

/-- What a text stands for if it has one of some forms. A text with none of them stands for itself. -/
def ofForms (version : Version) (forms : List Form) (text : List Char) : Scalar :=
  match forms.find? (Form.isFormOf version text) with
  | some form => form.value text
  | none => ofText text

def mergeWord : List Char :=
  ['<', '<']

/-- What a text without quotes stands for. Only in the earlier version one key takes over other
mappings. -/
def ofPlain (version : Version) (isKey : Bool) (text : List Char) : Scalar :=
  if version = .earlier ∧ isKey ∧ text = mergeWord then .merge
  else ofForms version Form.all text

end Scalar

end JoinTrust.Yaml

import FeatureAudit.Value.Moment
import FeatureAudit.Decimal.Integer
import FeatureAudit.Decimal.Real
import FeatureAudit.Decimal.Shortest
import FeatureAudit.Text.Quoted
import FeatureAudit.Text.Search

/-!
# Values

The values of configuration documents and of feature metadata. Tables keep the order of their
entries.
-/

set_option autoImplicit false

namespace FeatureAudit

/-- A value of a configuration document. -/
inductive Value where
  /-- No value. -/
  | null
  /-- Yes or no. -/
  | flag (b : Bool)
  /-- A whole number. -/
  | integer (n : Int)
  /-- A floating-point number. -/
  | real (x : Float)
  /-- A text. -/
  | text (s : String)
  /-- A date or a time. -/
  | moment (m : Moment)
  /-- A list. -/
  | list (items : List Value)
  /-- A table with named entries in order. -/
  | table (entries : List (String × Value))
  deriving Inhabited

/-- Named values in order. -/
abbrev Entries := List (String × Value)

namespace Value

/-- Whether a value counts as present: it is neither null, false, zero nor empty. -/
def isTruthy : Value → Bool
  | .null => false
  | .flag b => b
  | .integer n => n != 0
  | .real x => !(x == 0.0)
  | .text s => !s.isEmpty
  | .moment _ => true
  | .list items => !items.isEmpty
  | .table entries => !entries.isEmpty

/-- Whether there is no value. -/
def isNull : Value → Bool
  | .null => true
  | _ => false

/-- The text, if the value is one. -/
def asText? : Value → Option String
  | .text s => some s
  | _ => none

/-- The items of a list; other values have none. -/
def items : Value → List Value
  | .list items => items
  | _ => []

/-- The entries of a table; other values have none. -/
def entries : Value → List (String × Value)
  | .table entries => entries
  | _ => []

/-! ## Names -/

mutual

/-- A value as it is shown within a list or a table: text between quotes, a number in digits, yes and
no as words. -/
def shown : Value → String
  | .null => "None"
  | .flag b => if b then "True" else "False"
  | .integer n => toString n
  | .real x => Decimal.shortestText x
  | .text s => Text.quoted s
  | .moment m => m.text
  | .list items => "[" ++ Text.joinWith ", " (shownItems items) ++ "]"
  | .table entries => "\x7b" ++ Text.joinWith ", " (shownEntries entries) ++ "\x7d"

/-- The items of a list as they are shown. -/
def shownItems : List Value → List String
  | [] => []
  | v :: vs => shown v :: shownItems vs

/-- The entries of a table as they are shown. -/
def shownEntries : List (String × Value) → List String
  | [] => []
  | (name, v) :: es => (Text.quoted name ++ ": " ++ shown v) :: shownEntries es

end

/-- The raw name that a value writes: text as it is, other values as they are shown. Null writes
none. -/
def name? : Value → Option String
  | .null => none
  | .text s => some s
  | v => some v.shown

/-- The whole number that a value is: yes and no are one and zero. -/
def number? : Value → Option Int
  | .integer n => some n
  | .flag b => some (if b then 1 else 0)
  | _ => none

/-- Whether two values are the same key. Text is the same as equal text, a number as an equal
number, however both are written. -/
def sameKey : Value → Value → Bool
  | .null, .null => true
  | .text s, .text t => s == t
  | .real x, .real y => x == y
  | .real x, w => w.number?.any fun n => (Decimal.Binary64.ofFloat x).compareInt? n == some .eq
  | v, .real y => v.number?.any fun n => (Decimal.Binary64.ofFloat y).compareInt? n == some .eq
  | v, w =>
    match v.number?, w.number? with
    | some m, some n => m == n
    | _, _ => false

/-! ## Numbers -/

/-- Why a value stands for no number. -/
inductive NumberFault where
  /-- The kind of value has no number. -/
  | wrongKind
  /-- The text or number stands for no number of the kind. -/
  | notANumber
  /-- The number is too large. -/
  | unbounded
  deriving DecidableEq, Repr

/-- The whole number that a value stands for: numbers lose their fraction, text is read, yes and
no are one and zero. -/
def asCount : Value → Except NumberFault Int
  | .integer n => .ok n
  | .flag b => .ok (if b then 1 else 0)
  | .real x =>
    match Decimal.Binary64.ofFloat x with
    | .undefined => .error .notANumber
    | .infinite _ => .error .unbounded
    | v => match v.truncate? with
      | some n => .ok n
      | none => .error .notANumber
  | .text s =>
    match Decimal.readInteger? s with
    | some n => .ok n
    | none => .error .notANumber
  | _ => .error .wrongKind

/-- Whether a value is a number: yes and no are. -/
def isNumber : Value → Bool
  | .real _ => true
  | v => v.number?.isSome

/-- How a whole number compares with a value that is a number. Nothing compares with what is
undefined. -/
def compareInt? (v : Value) (n : Int) : Option Ordering :=
  match v with
  | .real x => (Decimal.Binary64.ofFloat x).compareInt? n
  | v => v.number?.map (Ord.compare n)

/-- The double that a value stands for: a whole number is rounded to the nearest double, text is read,
yes and no are one and zero. -/
def asReal : Value → Except NumberFault Float
  | .real x => .ok x
  | .integer n =>
    let x := Decimal.nearest n 1
    if x.isInf then .error .unbounded else .ok x
  | .flag b => .ok (if b then 1.0 else 0.0)
  | .text s =>
    match Decimal.readReal? s with
    | some x => .ok x
    | none => .error .notANumber
  | _ => .error .wrongKind

end Value

namespace Entries

/-- The value of a name. -/
def get? (es : Entries) (name : String) : Option Value := es.lookup name

/-- Gives a name a value: in place if the name is there, at the end otherwise. -/
def put : Entries → String → Value → Entries
  | [], name, v => [(name, v)]
  | (k, w) :: es, name, v => if k == name then (k, v) :: es else (k, w) :: put es name v

/-- The entries of `defaults` overlaid with those of `payload` that are not null. -/
def overlay (defaults payload : Entries) : Entries :=
  payload.foldl (fun merged (name, v) =>
    match v with
    | .null => merged
    | v => put merged name v) defaults

end Entries

end FeatureAudit

import UtilityLayout.Binary64.Shortest
import UtilityLayout.Numeral.Whole
/-! Scalars of a document: nothing, truth values, numbers, texts, bytes and points of time. -/
namespace UtilityLayout

structure Date where
  year : Nat
  month : Nat
  day : Nat
  deriving DecidableEq, Repr

structure Moment where
  date : Date
  hour : Nat
  minute : Nat
  second : Nat
  microsecond : Nat
  offset? : Option Int
  deriving DecidableEq, Repr

inductive Scalar where
  | null
  | bool (b : Bool)
  | int (i : Int)
  | float (x : Binary64)
  | text (t : Text)
  | bytes (content : List UInt8)
  | date (d : Date)
  | moment (m : Moment)
  deriving DecidableEq, Repr

namespace Date

def isLeap (year : Nat) : Bool :=
  year % 4 == 0 && (year % 100 != 0 || year % 400 == 0)

def daysInMonth (year month : Nat) : Nat :=
  if month = 2 then if isLeap year then 29 else 28
  else if month = 4 || month = 6 || month = 9 || month = 11 then 30
  else 31

def ordinal (d : Date) : Nat :=
  let years := d.year - 1
  let beforeYear := 365 * years + years / 4 - years / 100 + years / 400
  (List.range (d.month - 1)).foldl (fun days m => days + daysInMonth d.year (m + 1)) beforeYear + d.day

def padded (width n : Nat) : String :=
  String.ofList (Binary64.padLeft width (Nat.toDigits 10 n))

def text (d : Date) : String :=
  padded 4 d.year ++ "-" ++ padded 2 d.month ++ "-" ++ padded 2 d.day

end Date

namespace Moment

def instant? (m : Moment) : Option Int :=
  m.offset?.map fun offset =>
    let minutes : Int := (m.date.ordinal * 1440 + m.hour * 60 + m.minute : Nat) - offset
    (minutes * 60 + m.second) * 1000000 + m.microsecond

def same (m n : Moment) : Bool :=
  match m.instant?, n.instant? with
  | some s, some t => s == t
  | none, none => m == n
  | _, _ => false

def offsetText (offset : Int) : String :=
  (if offset < 0 then "-" else "+") ++ Date.padded 2 (offset.natAbs / 60) ++ ":" ++
    Date.padded 2 (offset.natAbs % 60)

def text (m : Moment) : String :=
  let fraction := if m.microsecond = 0 then "" else "." ++ Date.padded 6 m.microsecond
  m.date.text ++ " " ++ Date.padded 2 m.hour ++ ":" ++ Date.padded 2 m.minute ++ ":" ++
    Date.padded 2 m.second ++ fraction ++ (m.offset?.map offsetText).getD ""

end Moment

namespace Scalar

def whole? : Scalar → Option Int
  | bool b => some (if b then 1 else 0)
  | int i => some i
  | _ => none

def equalsWhole (x : Binary64) (i : Int) : Bool :=
  match x with
  | .finite negative m => Binary64.signedUnits negative m == i * unitsPerOne
  | _ => false

/- Whether two scalars are one key of a mapping. Numbers are compared by value whatever their kind. -/
def sameKey (a b : Scalar) : Bool :=
  match a.whole?, b.whole? with
  | some i, some j => i == j
  | some i, none => match b with
    | float y => equalsWhole y i
    | _ => false
  | none, some j => match a with
    | float x => equalsWhole x j
    | _ => false
  | none, none => match a, b with
    | float x, float y => x == y || x.equals y
    | moment m, moment n => m.same n
    | a, b => a == b

def kind : Scalar → String
  | null => "NoneType"
  | bool _ => "bool"
  | int _ => "int"
  | float _ => "float"
  | text _ => "str"
  | bytes _ => "bytes"
  | date _ => "datetime.date"
  | moment _ => "datetime.datetime"

def isAbsent : Scalar → Bool
  | null => true
  | bool b => !b
  | int i => i == 0
  | float x => x.isZero
  | text t => t.isEmpty
  | bytes content => content.isEmpty
  | _ => false

def isTooLong (i : Int) : Bool :=
  Nat.pow 10 WholeError.mostDigits ≤ i.natAbs

def name? : Scalar → Option Text
  | null => some "None"
  | bool b => some (if b then "True" else "False" : String)
  | int i => if isTooLong i then none else some (toString i)
  | float x => some (x.text .plain)
  | text t => some t
  | bytes content => some (Text.quotedBytes content)
  | date d => some d.text
  | moment m => some m.text

end Scalar
end UtilityLayout

import UtilityLayout.Numeral.Whole
/-! Why a text is no document. All faults of form are one; a scalar whose content does not fit its tag keeps
its cause, and so does a document that is nested too deeply. -/
namespace UtilityLayout.Yaml

inductive TimeFault where
  | year (year : Nat)
  | month
  | day
  | hour
  | minute
  | second
  | offset (minutes : Int)
  deriving DecidableEq, Repr

inductive Fault where
  | malformed
  | noCharacter (code : Nat)
  | whole (cause : WholeError)
  | emptyNumber
  | notNumber (text : Text)
  | numberTooLarge
  | unknownWord (text : Text)
  | notTime
  | timeOfMapping
  | time (cause : TimeFault)
  | tooDeep
  deriving DecidableEq, Repr

def spanText (minutes : Int) : String :=
  let days := minutes.fdiv 1440
  let seconds := minutes.fmod 1440 * 60
  let parts := (if days = 0 then [] else ["days=" ++ toString days]) ++
    (if seconds = 0 then [] else ["seconds=" ++ toString seconds])
  "datetime.timedelta(" ++ ", ".intercalate parts ++ ")"

def TimeFault.message : TimeFault → String
  | year y => "year " ++ toString y ++ " is out of range"
  | month => "month must be in 1..12"
  | day => "day is out of range for month"
  | hour => "hour must be in 0..23"
  | minute => "minute must be in 0..59"
  | second => "second must be in 0..59"
  | offset minutes =>
    "offset must be a timedelta strictly between -timedelta(hours=24) and timedelta(hours=24), not " ++
      spanText minutes ++ "."

def Fault.message : Fault → String
  | malformed => "malformed document"
  | noCharacter code =>
    if code < 0x80000000 then "chr() arg not in range(0x110000)"
    else "Python int too large to convert to C int"
  | whole cause => cause.message
  | emptyNumber => "string index out of range"
  | notNumber text => "could not convert string to float: " ++ Text.quoted text
  | numberTooLarge => "int too large to convert to float"
  | unknownWord text => Text.quoted text
  | notTime => "'NoneType' object has no attribute 'groupdict'"
  | timeOfMapping => "expected string or bytes-like object, got 'list'"
  | time cause => cause.message
  | tooDeep => "maximum recursion depth exceeded"

end UtilityLayout.Yaml

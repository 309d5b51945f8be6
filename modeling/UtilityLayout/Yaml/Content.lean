import UtilityLayout.Datum.Scalar
import UtilityLayout.Numeral.Word
import UtilityLayout.Text.Base64
import UtilityLayout.Text.Lowercase
import UtilityLayout.Yaml.Fault
import UtilityLayout.Yaml.Tag
/-! The value of a scalar under its tag. Underscores in numbers are dropped before anything else. A text
that does not fit its tag is a fault with a cause of its own. -/
namespace UtilityLayout.Yaml.Content

def withoutUnderscores (points : List CodePoint) : List CodePoint :=
  points.filter (· != .char '_')

def signed : List CodePoint → Except Fault (Bool × List CodePoint)
  | [] => .error .emptyNumber
  | .char '-' :: rest => .ok (true, rest)
  | .char '+' :: rest => .ok (false, rest)
  | points => .ok (false, points)

def whole (base : Nat) (points : List CodePoint) : Except Fault Int :=
  (Numeral.whole base ⟨points⟩).mapError .whole

def groups (points : List CodePoint) : List (List CodePoint) :=
  Text.split (· == .char ':') points

def sexagesimal (values : List Int) : Int :=
  values.foldl (fun value group => 60 * value + group) 0

def int (t : Text) : Except Fault Int := do
  let (negative, digits) ← signed (withoutUnderscores t.points)
  let value ← match digits with
    | [] => .error .emptyNumber
    | [.char '0'] => pure 0
    | .char '0' :: .char 'b' :: digits => whole 2 digits
    | .char '0' :: .char 'x' :: digits => whole 16 digits
    | .char '0' :: _ => whole 8 digits
    | _ =>
      if digits.contains (.char ':') then sexagesimal <$> (groups digits).mapM (whole 10)
      else whole 10 digits
  .ok (if negative then -value else value)

def decimal (points : List CodePoint) : Except Fault Binary64 :=
  match Numeral.liberal? (Text.mk points).chars with
  | some value => .ok value
  | none => .error (.notNumber ⟨points⟩)

/- Groups from the least significant on, each scaled and added in turn. The scale is rounded too, and has
to be in range. -/
def sexagesimalFrom (scale : Nat) (sum : Binary64) : List Binary64 → Except Fault Binary64
  | [] => .ok sum
  | group :: rest =>
    match Binary64.ofInt? scale with
    | some factor => sexagesimalFrom (60 * scale) (sum + group * factor) rest
    | none => .error .numberTooLarge

def float (t : Text) : Except Fault Binary64 := do
  let (negative, digits) ← signed (Text.lowerPoints (withoutUnderscores t.points))
  if Text.mk digits = ".nan" then return .nan
  let value ←
    if Text.mk digits = ".inf" then pure (.infinite false)
    else if digits.contains (.char ':') then do
      let values ← (groups digits).mapM decimal
      sexagesimalFrom 1 .zero values.reverse
    else decimal digits
  return if negative then -value else value

def bool (t : Text) : Except Fault Bool :=
  let word : Text := ⟨Text.lowerPoints t.points⟩
  match Pattern.boolWords.find? fun (known, _) => word = known with
  | some (_, value) => .ok value
  | none => .error (.unknownWord word)

def bytes (t : Text) : Except Fault (List UInt8) :=
  match t.chars? with
  | some characters =>
    if characters.any fun c => 0x80 ≤ c.toNat then .error .malformed
    else match Text.Base64.decode? characters with
      | some content => .ok content
      | none => .error .malformed
  | none => .error .malformed

def checkedDate (year month day : Nat) : Except Fault Date :=
  if year = 0 then .error (.time (.year year))
  else if month = 0 || 12 < month then .error (.time .month)
  else if day = 0 || Date.daysInMonth year month < day then .error (.time .day)
  else .ok ⟨year, month, day⟩

def microseconds (fraction : List Char) : Nat :=
  let digits := fraction.take 6
  Text.digitsValue (digits ++ List.replicate (6 - digits.length) '0')

def moment (parts : TimeText) : Except Fault Scalar := do
  let year := Text.digitsValue parts.year
  let month := Text.digitsValue parts.month
  let day := Text.digitsValue parts.day
  match parts.clock? with
  | none => .date <$> checkedDate year month day
  | some (hour, minute, second) =>
    let hour := Text.digitsValue hour
    let minute := Text.digitsValue minute
    let second := Text.digitsValue second
    match parts.offset? with
    | some minutes => if 1440 ≤ minutes.natAbs then throw (.time (.offset minutes))
    | none => pure ()
    let date ← checkedDate year month day
    if 23 < hour then throw (.time .hour)
    if 59 < minute then throw (.time .minute)
    if 59 < second then throw (.time .second)
    .ok (.moment ⟨date, hour, minute, second, microseconds parts.fraction, parts.offset?⟩)

def time (t : Text) : Except Fault Scalar :=
  match t.chars?.bind fun characters => TimeText.read? (Numeral.dropFinalNewline characters) with
  | some parts => moment parts
  | none => .error .notTime

def scalar (tag : Tag) (t : Text) : Except Fault Scalar :=
  match tag with
  | .null => .ok .null
  | .bool => .bool <$> bool t
  | .int => .int <$> int t
  | .float => .float <$> float t
  | .time => time t
  | .text => .ok (.text t)
  | .bytes => .bytes <$> bytes t
  | _ => .error .malformed

end UtilityLayout.Yaml.Content

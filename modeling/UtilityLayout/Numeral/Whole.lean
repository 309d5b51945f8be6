import UtilityLayout.Text.Blank
import UtilityLayout.Text.Quoted
import UtilityLayout.Numeral.Plain
/-! Whole numbers as text in base 2, 8, 10 or 16: Unicode white space around, a sign, the mark of the
base, digits of every script, single underscores between digits. Base ten has a greatest length. -/
namespace UtilityLayout

inductive WholeError where
  | malformed (base : Nat) (text : Text)
  | tooLong (digits : Nat)
  deriving DecidableEq, Repr

namespace WholeError

def mostDigits : Nat := 4300

def limitText : String :=
  "Exceeds the limit (" ++ toString mostDigits ++ " digits) for integer string conversion"

def limitAdvice : String :=
  "; use sys.set_int_max_str_digits() to increase the limit"

def mostShown : Nat := 200

def message : WholeError → String
  | malformed base text =>
    "invalid literal for int() with base " ++ toString base ++ ": " ++
      String.ofList ((Text.Quoted.encode text).take mostShown)
  | tooLong digits =>
    limitText ++ ": value has " ++ toString digits ++ " digits" ++ limitAdvice

end WholeError

namespace Numeral

def digitIn? (base : Nat) (c : Char) : Option Nat :=
  let value? :=
    if 'a' ≤ c && c ≤ 'z' then some (c.toNat - 'a'.toNat + 10)
    else if 'A' ≤ c && c ≤ 'Z' then some (c.toNat - 'A'.toNat + 10)
    else Text.digitValue? c
  value?.filter (· < base)

def baseMark? : Nat → Option Char
  | 2 => some 'b'
  | 8 => some 'o'
  | 16 => some 'x'
  | _ => none

def dropBaseMark (base : Nat) (text : List Char) : List Char :=
  match text with
  | '0' :: mark :: rest =>
    if baseMark? base = some mark.toLower then
      match rest with
      | '_' :: digits => digits
      | digits => digits
    else text
  | _ => text

def leadingDigits? (base : Nat) (text : List Char) : Option (List Nat × List Char) :=
  let isPart (c : Char) : Bool := c == '_' || (digitIn? base c).isSome
  let groups := Text.split (· == '_') (text.takeWhile isPart)
  if groups.any (·.isEmpty) then none
  else some (groups.flatten.filterMap (digitIn? base), text.dropWhile isPart)

def ofDigitList (base : Nat) (digits : List Nat) : Nat :=
  digits.foldl (fun value digit => base * value + digit) 0

/- The number that a text denotes. Too many digits are refused before what follows them is looked at. -/
def whole (base : Nat) (text : Text) : Except WholeError Int :=
  let (negative, unsigned) := takeSign (Text.trimBy Text.isWhiteSpace text.chars)
  match leadingDigits? base (dropBaseMark base unsigned) with
  | none => .error (.malformed base text)
  | some (digits, rest) =>
    if base = 10 && WholeError.mostDigits < digits.length then .error (.tooLong digits.length)
    else if !rest.isEmpty then .error (.malformed base text)
    else
      let value : Int := ofDigitList base digits
      .ok (if negative then -value else value)

end Numeral
end UtilityLayout

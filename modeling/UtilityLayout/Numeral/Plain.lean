import UtilityLayout.Text.Digit
import UtilityLayout.Binary64.Decimal
/-! Decimal numerals as written: a sign, digits with at most one point and a digit on one side of it, and
an exponent. What counts as a digit and as an exponent mark is a parameter; nothing may stand before or
after the numeral. -/
namespace UtilityLayout

structure NumeralStyle where
  isDigit : Char → Bool
  isExponentMark : Char → Bool

namespace Numeral

def takeSign : List Char → Bool × List Char
  | '-' :: rest => (true, rest)
  | '+' :: rest => (false, rest)
  | text => (false, text)

def exponent? (style : NumeralStyle) : List Char → Option Int
  | [] => some 0
  | mark :: rest =>
    let (negative, digits) := takeSign rest
    if style.isExponentMark mark && !digits.isEmpty && digits.all style.isDigit then
      let value : Int := Text.digitsValue digits
      some (if negative then -value else value)
    else none

def takeSignificand (style : NumeralStyle) (text : List Char) :
    List Char × List Char × List Char :=
  let whole := text.takeWhile style.isDigit
  match text.dropWhile style.isDigit with
  | '.' :: rest => (whole, rest.takeWhile style.isDigit, rest.dropWhile style.isDigit)
  | rest => (whole, [], rest)

def read? (style : NumeralStyle) (text : List Char) : Option Decimal :=
  let (negative, unsigned) := takeSign text
  let (whole, fraction, rest) := takeSignificand style unsigned
  if whole.isEmpty && fraction.isEmpty then none
  else (exponent? style rest).map fun exponent =>
    ⟨negative, Text.digitsValue (whole ++ fraction), exponent - fraction.length⟩

def classStyle : NumeralStyle :=
  ⟨Text.isDigit, (· == 'e')⟩

/- A pattern that is anchored at the end also matches just before one final line feed. -/
def dropFinalNewline (text : List Char) : List Char :=
  if text.getLast? = some '\n' then text.dropLast else text

def number? (text : List Char) : Option Binary64 :=
  (read? classStyle (dropFinalNewline text)).map Decimal.toBinary64

def ofDigits (digits : List Char) : Binary64 :=
  Decimal.toBinary64 ⟨false, Text.digitsValue digits, 0⟩

end Numeral
end UtilityLayout

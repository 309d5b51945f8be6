import UtilityLayout.Binary64.Shortest
import UtilityLayout.Text.Basic
/-! Values of a layout and their expressions. A number is written with one decimal place so that it reads
as a floating-point literal; a literal stands for itself. Rounding is exact on the binary value, a half
going away from zero. Only an exact zero loses its sign. -/
namespace UtilityLayout

inductive LayoutValue where
  | number (x : Binary64)
  | literal (text : Text)
  deriving DecidableEq, Repr

inductive Numeric where
  | whole (i : Int)
  | real (x : Binary64)
  deriving DecidableEq, Repr

namespace Expression

def infinity : String := "double.infinity"

def notNumber : String := "double.nan"

def screenSize : String := "MediaQuery.of(context).size"

def fixedText (places : Nat) (negative : Bool) (numerator denominator : Nat) : String :=
  let scale := Nat.pow 10 places
  let scaled := roundHalfUp (numerator * scale) denominator
  let fraction := Binary64.padLeft places (Nat.toDigits 10 (scaled % scale))
  String.ofList <|
    Binary64.signText (negative && numerator != 0) ++ Nat.toDigits 10 (scaled / scale) ++
      if places = 0 then [] else '.' :: fraction

def nonFiniteText (negative : Bool) : String :=
  (if negative then "-" else "") ++ infinity

def number : Binary64 → String
  | .nan => notNumber
  | .infinite negative => nonFiniteText negative
  | .finite negative m => fixedText 1 negative m.units unitsPerOne

def percentage (fraction : Binary64) : String :=
  match fraction * 100 with
  | .nan => notNumber
  | .infinite negative => nonFiniteText negative
  | .finite negative m => "'" ++ fixedText 0 negative m.units unitsPerOne ++ "%'"

def value : LayoutValue → Text
  | .number x => number x
  | .literal text => text

def numeric? : Numeric → Option String
  | .whole i => (Binary64.ofInt? i).map number
  | .real x => some (number x)

def percentageOf? : Numeric → Option String
  | .whole i =>
    let percent := i * 100
    (Binary64.ofInt? percent).map fun _ =>
      "'" ++ fixedText 0 (decide (percent < 0)) percent.natAbs 1 ++ "%'"
  | .real x => some (percentage x)

end Expression
end UtilityLayout

import UtilityLayout.Binary64.Basic
/-! The fewest decimal digits that read back as the same number, and the text made of them. Among
decimals of that length the nearest to the number is taken. The search is exact: for each length it
tries the two neighbours of the number on the decimal grid of that length. -/
namespace UtilityLayout.Binary64

structure Digits where
  digits : List Char
  exponent : Int
  deriving DecidableEq, Repr

namespace Shortest

/- The numbers that round to a magnitude lie between two ends, here in half units. An end belongs to
them if the significand is even. -/
structure Interval where
  low : Nat
  high : Nat
  closed : Bool

def interval (m : Magnitude) : Interval :=
  let surplus := Magnitude.surplusBits m.units
  let step := Nat.pow 2 surplus
  let below := if 0 < surplus && m.units == Nat.pow 2 (52 + surplus) then step / 2 else step
  ⟨2 * m.units - below, 2 * m.units + step, m.units / step % 2 == 0⟩

def Interval.contains (i : Interval) (numerator denominator : Nat) : Bool :=
  if i.closed then i.low * denominator ≤ numerator && numerator ≤ i.high * denominator
  else i.low * denominator < numerator && numerator < i.high * denominator

def scaled (n : Nat) (exponent : Int) : Nat × Nat :=
  (n * Nat.pow 10 exponent.toNat, Nat.pow 10 (-exponent).toNat)

def decade (m : Magnitude) : Int :=
  let estimate := ((m.units.log2 : Int) - 1074) * 30103 / 100000
  let (numerator, denominator) := scaled unitsPerOne (estimate + 1)
  if numerator ≤ m.units * denominator then estimate + 1 else estimate

def onGrid? (m : Magnitude) (length : Nat) : Option (Nat × Int) :=
  let exponent := decade m - (length - 1)
  let (numerator, denominator) := scaled unitsPerOne exponent
  let lower := m.units * denominator / numerator
  let reads (n : Nat) := (interval m).contains (2 * n * numerator) denominator
  let rest := m.units * denominator % numerator
  let upperNearer := numerator < 2 * rest || (numerator == 2 * rest && lower % 2 == 1)
  match reads lower, reads (lower + 1) with
  | true, true => some (if upperNearer then lower + 1 else lower, exponent)
  | true, false => some (lower, exponent)
  | false, true => some (lower + 1, exponent)
  | false, false => none

/- Tries lengths from `length` on; seventeen digits always suffice. -/
def search (m : Magnitude) : Nat → Nat → Nat × Int
  | 0, length => (onGrid? m length).getD (m.units, 0)
  | more + 1, length =>
    match onGrid? m length with
    | some found => found
    | none => search m more (length + 1)

def dropTrailingZeros (digits : List Char) : List Char :=
  (digits.reverse.dropWhile (· == '0')).reverse

end Shortest

def shortestDigits (m : Magnitude) : Digits :=
  if m.units = 0 then ⟨['0'], 0⟩
  else
    let (n, exponent) := Shortest.search m 16 1
    let digits := Nat.toDigits 10 n
    ⟨Shortest.dropTrailingZeros digits, exponent + (digits.length - 1)⟩

structure TextStyle where
  leastPositional : Int
  greatestPositional : Int
  exponentDigits : Nat
  infinity : String
  notNumber : String

def TextStyle.plain : TextStyle := ⟨-4, 15, 2, "inf", "nan"⟩

def padLeft (width : Nat) (digits : List Char) : List Char :=
  List.replicate (width - digits.length) '0' ++ digits

def Digits.text (d : Digits) (style : TextStyle) : List Char :=
  if style.leastPositional ≤ d.exponent && d.exponent ≤ style.greatestPositional then
    if d.exponent < 0 then
      ['0', '.'] ++ List.replicate (-d.exponent - 1).toNat '0' ++ d.digits
    else
      let whole := d.exponent.toNat + 1
      let digits := d.digits ++ List.replicate (whole - d.digits.length) '0'
      let fraction := digits.drop whole
      digits.take whole ++ ['.'] ++ (if fraction.isEmpty then ['0'] else fraction)
  else
    let significand := match d.digits with
      | first :: second :: rest => first :: '.' :: second :: rest
      | short => short
    let sign := if d.exponent < 0 then '-' else '+'
    significand ++ ['e', sign] ++ padLeft style.exponentDigits (Nat.toDigits 10 d.exponent.natAbs)

def signText (negative : Bool) : List Char :=
  if negative then ['-'] else []

theorem signTextCases (negative : Bool) : signText negative = [] ∨ signText negative = ['-'] := by
  cases negative
  · exact .inl rfl
  · exact .inr rfl

def text (style : TextStyle) : Binary64 → String
  | .nan => style.notNumber
  | .infinite negative => String.ofList (signText negative) ++ style.infinity
  | .finite negative m =>
    String.ofList (signText negative ++ (shortestDigits m).text style)

end UtilityLayout.Binary64

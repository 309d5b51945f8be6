import UtilityLayout.Proofs.Binary64.Rounding
import UtilityLayout.Proofs.Utility.Segments

/-! The operations of a conversion that are not defined everywhere. Outside its domain each of them is a fault; beside
each stands where it is defined. -/
namespace UtilityLayout.Checked
variable {α κ : Type}

inductive Fault where
  | noPosition (index : Nat)
  | noKey
  | noNumber (text : List Char)
  | zeroDivisor
  | notFinite
  | tooManyDigits (count : Nat)
  deriving DecidableEq, Repr

def demand (fault : Fault) : Option α → Except Fault α
  | some a => .ok a
  | none => .error fault

def item (list : List α) (index : Nat) : Except Fault α :=
  demand (.noPosition index) list[index]?

def last (list : List α) : Except Fault α :=
  item list (list.length - 1)

def entry [DecidableEq κ] (table : Table κ α) (key : κ) : Except Fault α :=
  demand .noKey (table.find? key)

def float (text : List Char) : Except Fault Binary64 :=
  demand (.noNumber text) (Numeral.liberal? text)

def quotient (dividend divisor : Binary64) : Except Fault Binary64 :=
  if divisor.isZero then .error .zeroDivisor else .ok (dividend / divisor)

def mostDigits : Nat := 400

def quantize (places : Nat) : Binary64 → Except Fault (Bool × Nat)
  | .finite negative m =>
    let count := roundHalfUp (m.units * Nat.pow 10 places) unitsPerOne
    let digits := (Nat.toDigits 10 count).length
    if digits ≤ mostDigits then .ok (negative, count) else .error (.tooManyDigits digits)
  | _ => .error .notFinite

theorem itemHead (first : α) (rest : List α) : item (first :: rest) 0 = .ok first :=
  rfl

theorem lastCons (first : α) (rest : List α) : last (first :: rest) = .ok (rest.getLastD first) := by
  rw [last, item, ← List.getLast?_eq_getElem?, List.getLast?_cons, ← List.getLastD_eq_getLast?]
  rfl

theorem entryFound [DecidableEq κ] {table : Table κ α} {key : κ} {value : α}
    (found : table.find? key = some value) : entry table key = .ok value := by
  rw [entry, found]
  rfl

theorem floatNumber {text : List Char} {x : Binary64} (read : Numeral.number? text = some x) :
    float text = .ok x := by
  rw [float, Numeral.liberalOfNumber read]
  rfl

theorem floatDigits {digits : List Char} (some : digits ≠ [])
    (all : Numeral.AllDigits Numeral.classStyle digits) : float digits = .ok (Numeral.ofDigits digits) := by
  have spelled : Numeral.Spelled Numeral.classStyle ([] ++ (digits ++ []))
      ⟨false, Text.digitsValue (digits ++ []), 0 - ([] : List Char).length⟩ :=
    .parts .none (.whole some all) .none
  rw [List.nil_append, List.append_nil] at spelled
  have kept : Numeral.dropFinalNewline digits = digits := by
    refine Numeral.newlineKept fun last => ?_
    have digit := all '\n' (List.mem_of_getLast? last)
    revert digit
    decide
  rw [← kept] at spelled
  rw [float, Numeral.liberalOfSpelled spelled, kept]
  rfl

theorem quotientDefined {divisor : Binary64} (divides : divisor.isZero = false) (dividend : Binary64) :
    quotient dividend divisor = .ok (dividend / divisor) := by
  rw [quotient, divides]
  rfl

/- Three bits take less than one digit, and a factor of ten no more than four bits. -/
theorem tenfoldDigits {count bits digits : Nat} (enough : bits + 4 < 3 * digits)
    (bounded : count ≤ 10 * Nat.pow 2 bits) : (Nat.toDigits 10 count).length ≤ digits := by
  rw [Nat.length_toDigits_le_iff (by decide) (by omega)]
  calc count
    _ ≤ 10 * 2 ^ bits := bounded
    _ ≤ 2 ^ 4 * 2 ^ bits := Nat.mul_le_mul_right _ (by decide)
    _ = 2 ^ (4 + bits) := (Nat.pow_add 2 4 bits).symm
    _ < 2 ^ (3 * digits) := Nat.pow_lt_pow_right (by decide) (by omega)
    _ = 8 ^ digits := Nat.pow_mul 2 3 digits
    _ ≤ 10 ^ digits := Nat.pow_le_pow_left (by decide) digits

theorem halfUpBelow {numerator denominator bound : Nat} (positive : 0 < denominator)
    (below : numerator < bound * denominator) : roundHalfUp numerator denominator ≤ bound := by
  refine Nat.le_of_lt_succ ?_
  rw [roundHalfUp, Nat.div_lt_iff_lt_mul (Nat.mul_pos (by decide) positive), Nat.mul_left_comm,
    Nat.succ_mul bound]
  omega

/- No finite number has more than 309 digits before the point, and one place adds one digit. -/
theorem digitsFew {places : Nat} (few : places ≤ 1) (m : Magnitude) :
    (Nat.toDigits 10 (roundHalfUp (m.units * Nat.pow 10 places) unitsPerOne)).length ≤ mostDigits := by
  have scale : Nat.pow 10 places ≤ 10 := Nat.pow_le_pow_right (by decide) few
  have below : m.units * Nat.pow 10 places < 10 * Nat.pow 2 wholeBits * unitsPerOne := by
    calc m.units * Nat.pow 10 places
      _ < unitsLimit * 10 := Nat.mul_lt_mul_of_lt_of_le m.bounded scale (by decide)
      _ = 10 * Nat.pow 2 wholeBits * unitsPerOne := by
        rw [limitUnits, Nat.mul_comm, Nat.mul_comm unitsPerOne, Nat.mul_assoc]
  exact tenfoldDigits (by decide) (halfUpBelow unitsPerOnePositive below)

theorem quantizeFinite {places : Nat} (few : places ≤ 1) (negative : Bool) (m : Magnitude) :
    quantize places (.finite negative m) =
      .ok (negative, roundHalfUp (m.units * Nat.pow 10 places) unitsPerOne) := by
  rw [quantize, if_pos (digitsFew few m)]

end UtilityLayout.Checked

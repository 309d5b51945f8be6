import UtilityLayout.Binary64.Magnitude
/-! Binary64 numbers (IEEE 754): not-a-number, the two infinities, and signed finite magnitudes. All
arithmetic is exact on units and then rounded once, to nearest with ties to even. Payloads of
not-a-number and exception flags are not modelled. -/
namespace UtilityLayout

inductive Binary64 where
  | nan
  | infinite (negative : Bool)
  | finite (negative : Bool) (magnitude : Magnitude)
  deriving DecidableEq, Repr

namespace Binary64

def zero : Binary64 :=
  .finite false .zero

def isFinite : Binary64 → Bool
  | .finite .. => true
  | _ => false

def ofQuotient (negative : Bool) (numerator denominator : Nat) : Binary64 :=
  match Magnitude.ofQuotient? numerator denominator with
  | some magnitude => .finite negative magnitude
  | none => .infinite negative

def ofInt? (i : Int) : Option Binary64 :=
  (Magnitude.ofQuotient? (i.natAbs * unitsPerOne) 1).map (.finite (decide (i < 0)))

def ofNat (n : Nat) : Binary64 :=
  ofQuotient false (n * unitsPerOne) 1

instance (n : Nat) : OfNat Binary64 n := ⟨ofNat n⟩

def ofBool (b : Bool) : Binary64 :=
  if b then 1 else 0

def neg : Binary64 → Binary64
  | .nan => .nan
  | .infinite negative => .infinite !negative
  | .finite negative magnitude => .finite (!negative) magnitude

def isZero : Binary64 → Bool
  | .finite _ magnitude => magnitude.units == 0
  | _ => false

def equals : Binary64 → Binary64 → Bool
  | .infinite s, .infinite t => s == t
  | .finite s m, .finite t n => m.units == n.units && (s == t || m.units == 0)
  | _, _ => false

def mul : Binary64 → Binary64 → Binary64
  | .nan, _ | _, .nan => .nan
  | .infinite s, .infinite t => .infinite (s ^^ t)
  | .infinite s, .finite t m | .finite s m, .infinite t =>
    if m.units = 0 then .nan else .infinite (s ^^ t)
  | .finite s m, .finite t n => ofQuotient (s ^^ t) (m.units * n.units) unitsPerOne

def div : Binary64 → Binary64 → Binary64
  | .nan, _ | _, .nan | .infinite _, .infinite _ => .nan
  | .infinite s, .finite t _ => .infinite (s ^^ t)
  | .finite s _, .infinite t => .finite (s ^^ t) .zero
  | .finite s m, .finite t n =>
    if n.units = 0 then if m.units = 0 then .nan else .infinite (s ^^ t)
    else ofQuotient (s ^^ t) (m.units * unitsPerOne) n.units

def signedUnits (negative : Bool) (magnitude : Magnitude) : Int :=
  if negative then -magnitude.units else magnitude.units

/- A sum that is exactly zero is negative only if both terms are. -/
def add : Binary64 → Binary64 → Binary64
  | .nan, _ | _, .nan => .nan
  | .infinite s, .infinite t => if s = t then .infinite s else .nan
  | .infinite s, .finite .. | .finite .., .infinite s => .infinite s
  | .finite s m, .finite t n =>
    let sum := signedUnits s m + signedUnits t n
    if sum = 0 then .finite (s && t) .zero else ofQuotient (decide (sum < 0)) sum.natAbs 1

instance : Neg Binary64 := ⟨neg⟩
instance : Mul Binary64 := ⟨mul⟩
instance : Div Binary64 := ⟨div⟩
instance : Add Binary64 := ⟨add⟩

theorem equalsSelf {x : Binary64} (number : x ≠ .nan) : x.equals x = true := by
  cases x <;> simp [equals] at number ⊢

theorem equalsSymm {x y : Binary64} (same : x.equals y = true) : y.equals x = true := by
  cases x <;> cases y <;>
    simp only [equals, Bool.and_eq_true, Bool.or_eq_true, beq_iff_eq, Bool.false_eq_true] at same ⊢
  case infinite.infinite => exact same.symm
  case finite.finite =>
    obtain ⟨units, sign | zero⟩ := same
    · exact ⟨units.symm, .inl sign.symm⟩
    · exact ⟨units.symm, .inr (units ▸ zero)⟩

theorem equalsTrans {x y z : Binary64} (first : x.equals y = true) (second : y.equals z = true) :
    x.equals z = true := by
  cases x <;> cases y <;> cases z <;>
    simp only [equals, Bool.and_eq_true, Bool.or_eq_true, beq_iff_eq, Bool.false_eq_true]
      at first second ⊢
  case infinite.infinite.infinite => exact first.trans second
  case finite.finite.finite =>
    refine ⟨first.1.trans second.1, ?_⟩
    rcases first.2 with sign | zero
    · rcases second.2 with other | zero
      · exact .inl (sign.trans other)
      · exact .inr (first.1 ▸ zero)
    · exact .inr zero

theorem ofQuotientNotNan (negative : Bool) (numerator denominator : Nat) :
    ofQuotient negative numerator denominator ≠ .nan := by
  unfold ofQuotient
  split <;> simp

theorem ofQuotientNotZero {numerator denominator : Nat} (positive : 0 < denominator)
    (one : denominator ≤ numerator) (negative : Bool) :
    (ofQuotient negative numerator denominator).isZero = false := by
  have units := Magnitude.roundUnitsPositive positive one
  unfold ofQuotient Magnitude.ofQuotient?
  split
  · rename_i magnitude found
    split at found
    · cases found
      exact beq_eq_false_iff_ne.mpr (Nat.ne_of_gt units)
    · contradiction
  · rfl

theorem ofNatNotNan (n : Nat) : ofNat n ≠ .nan :=
  ofQuotientNotNan _ _ _

end Binary64
end UtilityLayout

import UtilityLayout.Text.Digit

/-! Whole numbers in base ten. Their texts are runs of ASCII digits, and only zero begins with the digit 0. -/
namespace UtilityLayout.Numeral

def IsDigits (text : List Char) : Prop :=
  text ≠ [] ∧ ∀ c ∈ text, Text.isAsciiDigit c = true

theorem asciiDigit (c : Char) : Text.isAsciiDigit c = c.isDigit := rfl

theorem asciiIsDigit {c : Char} (ascii : Text.isAsciiDigit c = true) : Text.isDigit c = true := by
  simp only [Text.isAsciiDigit, Bool.and_eq_true, decide_eq_true_eq] at ascii
  have low : 0x30 ≤ c.toNat := ascii.1
  have high : c.toNat ≤ 0x39 := ascii.2
  rw [Text.isDigit, Text.digitValue?, Option.isSome_map, List.find?_isSome]
  refine ⟨0x30, List.mem_cons_self, ?_⟩
  simp only [Bool.and_eq_true, decide_eq_true_eq]
  omega

theorem toDigitsDigits (n : Nat) : IsDigits (Nat.toDigits 10 n) := by
  refine ⟨Nat.toDigits_ne_nil, ?_⟩
  intro c inside
  rw [asciiDigit]
  exact Nat.isDigit_of_mem_toDigits (by decide) (by decide) inside

theorem digitCharAscii {d : Nat} (small : d < 10) : Text.isAsciiDigit (Nat.digitChar d) = true := by
  have digits := toDigitsDigits d
  rw [Nat.toDigits_of_lt_base small] at digits
  exact digits.2 _ List.mem_cons_self

theorem zeroDigits : IsDigits ['0'] :=
  toDigitsDigits 0

theorem toDigitsLeading {n : Nat} (positive : n ≠ 0) : (Nat.toDigits 10 n).head? ≠ some '0' := by
  induction n using Nat.strongRecOn with
  | ind n ih =>
    by_cases small : n < 10
    · rw [Nat.toDigits_of_lt_base small]
      simp [positive]
    · have large : 10 ≤ n := by omega
      have tenth := ih (n / 10) (by omega) (by omega)
      obtain ⟨first, rest, same⟩ := List.exists_cons_of_ne_nil (Nat.toDigits_ne_nil (n := n / 10) (b := 10))
      rw [same] at tenth
      rw [Nat.toDigits_of_base_le (by decide) large, same]
      exact tenth

theorem digitsValueAppend (digits : List Char) (c : Char) :
    Text.digitsValue (digits ++ [c]) = 10 * Text.digitsValue digits + (Text.digitValue? c).getD 0 := by
  rw [Text.digitsValue, List.foldl_append]
  rfl

theorem digitValueChar {d : Nat} (small : d < 10) : Text.digitValue? (Nat.digitChar d) = some d := by
  have all : ∀ d < 10, Text.digitValue? (Nat.digitChar d) = some d := by decide
  exact all d small

theorem digitsValueToDigits (n : Nat) : Text.digitsValue (Nat.toDigits 10 n) = n := by
  induction n using Nat.strongRecOn with
  | ind n ih =>
    by_cases small : n < 10
    · have single := digitsValueAppend [] (Nat.digitChar n)
      rw [digitValueChar small] at single
      rw [Nat.toDigits_of_lt_base small]
      exact single.trans (Nat.zero_add n)
    · have large : 10 ≤ n := by omega
      rw [Nat.toDigits_of_base_le (by decide) large, digitsValueAppend, ih (n / 10) (by omega),
        digitValueChar (Nat.mod_lt _ (by decide))]
      exact Nat.div_add_mod n 10

theorem digitsValueSplit (n : Nat) :
    Text.digitsValue (Nat.toDigits 10 (n / 10) ++ [Nat.digitChar (n % 10)]) = n := by
  rw [digitsValueAppend, digitsValueToDigits, digitValueChar (Nat.mod_lt _ (by decide))]
  exact Nat.div_add_mod n 10

end UtilityLayout.Numeral

import UtilityLayout.Json.Reader
import UtilityLayout.Proofs.Json.Printing
import UtilityLayout.Proofs.Text.Halves

/-! Printed strings read back. Each escape is read as the code point that it was written for; only two halves of a pair
side by side are read as one, the character that they name. -/
namespace UtilityLayout

namespace Json
open CodePoint (paired joined)

theorem unitRead {code : Nat} (small : code < 0x10000) (rest : List Char) :
    unit? (Text.hexDigits 4 code ++ rest) = some (code, rest) := by
  have digit (n : Nat) : Text.hexValue? (Text.hexDigit (n % 16)) = some (n % 16) :=
    hexDigitValue (Nat.mod_lt n (by decide))
  have value : 0x1000 * (code / 16 / 16 / 16 % 16) + 0x100 * (code / 16 / 16 % 16) + 0x10 * (code / 16 % 16) +
      code % 16 = code := by omega
  simp [Text.hexDigits, unit?, digit, value]

def after (point : CodePoint) (read : Option (List CodePoint × List Char)) : Option (List CodePoint × List Char) :=
  read.map fun (others, rest) => (point :: others, rest)

theorem escapedRead {text rest : List Char} {point : CodePoint} (escape : escaped? text = some (point, rest))
    (more : Nat) : points? (more + 1) ('\\' :: text) = after point (points? more rest) := by
  rw [points?, if_neg (by decide), if_pos rfl, escape]
  simp only [Option.bind_eq_bind, Option.bind_some]
  cases points? more rest <;> rfl

theorem plainRead {c : Char} (shown : 0x20 ≤ c.toNat) (free : c ≠ '"' ∧ c ≠ '\\') (rest : List Char) (more : Nat) :
    points? (more + 1) (c :: rest) = after (.char c) (points? more rest) := by
  rw [points?, if_neg free.1, if_neg free.2, if_neg (by omega)]
  cases points? more rest <;> rfl

theorem unitAlone {code : Nat} (small : code < 0x10000) {rest : List Char}
    (alone : 0xd800 ≤ code ∧ code < 0xdc00 → lowUnit? rest = none) (more : Nat) :
    points? (more + 1) (escapeUnit code ++ rest) = after (.ofNat code) (points? more rest) := by
  have escape : escaped? ('u' :: (Text.hexDigits 4 code ++ rest)) = some (.ofNat code, rest) := by
    rw [escaped?, escapedUnits?, unitRead small]
    by_cases high : 0xd800 ≤ code ∧ code < 0xdc00
    · simp [high, alone high]
    · simp [high]
  exact escapedRead escape more

theorem lowRead {low : Nat} (small : low < 0x10000) (rest : List Char) :
    lowUnit? (escapeUnit low ++ rest) = if 0xdc00 ≤ low ∧ low < 0xe000 then some (low, rest) else none := by
  have read := unitRead small rest
  by_cases inside : 0xdc00 ≤ low ∧ low < 0xe000
  · simp [escapeUnit, lowUnit?, read, inside]
  · have outside : 0xdc00 ≤ low → 0xe000 ≤ low := by omega
    simpa [escapeUnit, lowUnit?, read, inside] using outside

theorem unitsPaired {high low : Nat} (first : 0xd800 ≤ high ∧ high < 0xdc00) (second : 0xdc00 ≤ low ∧ low < 0xe000)
    (rest : List Char) (more : Nat) :
    points? (more + 1) (escapeUnit high ++ (escapeUnit low ++ rest)) =
      after (.ofNat (0x10000 + (high - 0xd800) * 0x400 + (low - 0xdc00))) (points? more rest) := by
  have escape : escaped? ('u' :: (Text.hexDigits 4 high ++ (escapeUnit low ++ rest))) =
      some (.ofNat (0x10000 + (high - 0xd800) * 0x400 + (low - 0xdc00)), rest) := by
    rw [escaped?, escapedUnits?, unitRead (by omega)]
    simp [first, lowRead (show low < 0x10000 by omega), second]
  exact escapedRead escape more

theorem charOutside (c : Char) : ¬(0xd800 ≤ c.toNat ∧ c.toNat < 0xe000) := by
  rcases c.valid with small | ⟨large, _⟩
  · exact fun inside => absurd small (Nat.not_lt.mpr inside.1)
  · exact fun inside => absurd large (Nat.not_lt.mpr (Nat.le_of_lt_succ inside.2))

theorem ofNatChar (c : Char) : CodePoint.ofNat c.toNat = .char c := by
  rw [CodePoint.ofNat, dif_neg (charOutside c), Char.ofNat_toNat]

theorem ofNatHalf (offset : Fin 0x800) : CodePoint.ofNat (CodePoint.half offset).code = .half offset := by
  have inside : 0xd800 ≤ (CodePoint.half offset).code ∧ (CodePoint.half offset).code < 0xe000 := by
    simp only [CodePoint.code]
    omega
  rw [CodePoint.ofNat, dif_pos inside]
  simp [CodePoint.code]

theorem codeRead (c : Char) (rest : List Char) (more : Nat) :
    points? (more + 1) (escapeCode c.toNat ++ rest) = after (.char c) (points? more rest) := by
  have bound := charBound c
  have outside := charOutside c
  rw [escapeCode]
  split
  · rename_i small
    have alone : 0xd800 ≤ c.toNat ∧ c.toNat < 0xdc00 → lowUnit? rest = none := by
      intro half
      omega
    rw [unitAlone small alone, ofNatChar]
  · have code : 0x10000 + (0xd800 + (c.toNat - 0x10000) / 0x400 - 0xd800) * 0x400 +
        (0xdc00 + (c.toNat - 0x10000) % 0x400 - 0xdc00) = c.toNat := by omega
    rw [List.append_assoc, unitsPaired (by omega) (by omega), code, ofNatChar]

theorem lowCodeNone (c : Char) (rest : List Char) : lowUnit? (escapeCode c.toNat ++ rest) = none := by
  have bound := charBound c
  rw [escapeCode]
  split
  · rename_i small
    have outside := charOutside c
    rw [lowRead small, if_neg (by omega)]
  · rw [List.append_assoc, lowRead (by omega), if_neg (by omega)]

theorem charRead (c : Char) (rest : List Char) (more : Nat) :
    points? (more + 1) (escapeChar c ++ rest) = after (.char c) (points? more rest) := by
  unfold escapeChar
  split
  · subst c
    exact escapedRead rfl more
  rename_i quote
  split
  · subst c
    exact escapedRead rfl more
  rename_i backslash
  iterate 5
    split
    · subst c
      exact escapedRead rfl more
  split
  · rename_i shown
    simp only [Bool.and_eq_true, decide_eq_true_eq] at shown
    exact plainRead shown.1 ⟨quote, backslash⟩ rest more
  · exact codeRead c rest more

theorem lowUnitPlain {c : Char} (other : c ≠ '\\') (rest : List Char) : lowUnit? (c :: rest) = none := by
  unfold lowUnit?
  split
  · rename_i same
    exact absurd (List.cons.inj same).1 other
  · rfl

theorem lowUnitNone {point : CodePoint} (first : point.isLow = false) (rest : List Char) :
    lowUnit? (escapePoint point ++ rest) = none := by
  cases point with
  | half offset =>
    have small : offset.val < 0x400 := by simpa [CodePoint.isLow] using first
    rw [escapePoint, lowRead (by simp only [CodePoint.code]; omega), if_neg]
    simp only [CodePoint.code]
    omega
  | char c =>
    simp only [escapePoint]
    unfold escapeChar
    split
    · rfl
    split
    · rfl
    rename_i backslash
    iterate 5
      split
      · rfl
    split
    · exact lowUnitPlain backslash rest
    · exact lowCodeNone c rest

theorem pointRead (point : CodePoint) {rest : List Char} (alone : point.isHigh = true → lowUnit? rest = none)
    (more : Nat) : points? (more + 1) (escapePoint point ++ rest) = after point (points? more rest) := by
  cases point with
  | char c => exact charRead c rest more
  | half offset =>
    have small : (CodePoint.half offset).code < 0x10000 := by
      simp only [CodePoint.code]
      omega
    have first : 0xd800 ≤ (CodePoint.half offset).code ∧ (CodePoint.half offset).code < 0xdc00 →
        lowUnit? rest = none := by
      intro inside
      refine alone (decide_eq_true ?_)
      simp only [CodePoint.code] at inside
      omega
    rw [escapePoint, unitAlone small first, ofNatHalf]

theorem pairRead {high low : CodePoint} (first : high.isHigh = true) (second : low.isLow = true) (rest : List Char)
    (more : Nat) : points? (more + 1) (escapePoint high ++ (escapePoint low ++ rest)) =
      after (joined high low) (points? more rest) := by
  cases high with
  | char c => contradiction
  | half a =>
    cases low with
    | char c => contradiction
    | half b =>
      simp only [CodePoint.isHigh, CodePoint.isLow, decide_eq_true_eq] at first second
      refine unitsPaired ?_ ?_ rest more
      · simp only [CodePoint.code]
        omega
      · simp only [CodePoint.code]
        omega

theorem bodyRead (points : List CodePoint) (rest : List Char) {fuel : Nat} (enough : points.length < fuel) :
    points? fuel (points.flatMap escapePoint ++ '"' :: rest) = some (paired points, rest) := by
  induction points using CodePoint.paired.induct generalizing fuel with
  | case1 =>
    obtain ⟨more, rfl⟩ := Nat.exists_eq_add_of_lt enough
    rfl
  | case2 p =>
    obtain ⟨more, rfl⟩ := Nat.exists_eq_add_of_lt enough
    have closed : lowUnit? ('"' :: rest) = none := lowUnitPlain (by decide) rest
    rw [List.flatMap_singleton, pointRead p fun _ => closed]
    simp [points?, after, paired, Nat.add_comm]
  | case3 p q others pair ih =>
    rw [paired, if_pos pair]
    rw [Bool.and_eq_true] at pair
    obtain ⟨more, rfl⟩ := Nat.exists_eq_add_of_lt enough
    rw [List.flatMap_cons, List.flatMap_cons, List.append_assoc, List.append_assoc, pairRead pair.1 pair.2, ih]
    · rfl
    · simp only [List.length_cons]
      omega
  | case4 p q others single ih =>
    rw [paired, if_neg single]
    obtain ⟨more, rfl⟩ := Nat.exists_eq_add_of_lt enough
    have alone : p.isHigh = true → lowUnit? ((q :: others).flatMap escapePoint ++ '"' :: rest) = none := by
      intro high
      have other : q.isLow = false := by simpa [high] using single
      rw [List.flatMap_cons, List.append_assoc]
      exact lowUnitNone other _
    rw [List.flatMap_cons, List.append_assoc, pointRead p alone, ih]
    · rfl
    · simp only [List.length_cons]
      omega

theorem escapePointLength (point : CodePoint) : 0 < (escapePoint point).length := by
  cases point with
  | half offset => simp [escapePoint, escapeUnit]
  | char c =>
    simp only [escapePoint, escapeChar, escapeCode, escapeUnit]
    repeat' split
    all_goals simp

theorem bodyLength (points : List CodePoint) : points.length ≤ (points.flatMap escapePoint).length := by
  induction points with
  | nil => exact Nat.le_refl 0
  | cons point rest ih =>
    have one := escapePointLength point
    rw [List.flatMap_cons, List.length_append, List.length_cons]
    omega

theorem stringRead (t : Text) (rest : List Char) :
    string? (t.points.flatMap escapePoint ++ '"' :: rest) = some (t.paired, rest) := by
  have length := bodyLength t.points
  rw [string?, bodyRead t.points rest (by simp only [List.length_append, List.length_cons]; omega)]
  rfl

end Json

theorem CodePoint.joinedUnits {high low : CodePoint} (first : high.isHigh = true) (second : low.isLow = true) :
    (joined high low).units = high.units ++ low.units := by
  cases high with
  | char c => contradiction
  | half a =>
    cases low with
    | char c => contradiction
    | half b =>
      simp only [isHigh, isLow, decide_eq_true_eq] at first second
      have value : 0x10000 + ((half a).code - 0xd800) * 0x400 + ((half b).code - 0xdc00) =
          0x10000 + a.val * 0x400 + (b.val - 0x400) := by
        simp only [code]
        omega
      have valid : (0x10000 + a.val * 0x400 + (b.val - 0x400)).isValidChar := .inr ⟨by omega, by omega⟩
      have kept : (Char.ofNat (0x10000 + a.val * 0x400 + (b.val - 0x400))).toNat =
          0x10000 + a.val * 0x400 + (b.val - 0x400) := by
        rw [Char.ofNat, dif_pos valid]
        rfl
      rw [joined, value, ofNat, dif_neg (by omega), units, kept, if_neg (by omega)]
      simp only [units, code, List.singleton_append, List.cons.injEq, and_true]
      omega

theorem Text.pairedUnits (t : Text) : t.paired.units = t.units := by
  have each (points : List CodePoint) :
      (CodePoint.paired points).flatMap CodePoint.units = points.flatMap CodePoint.units := by
    induction points using CodePoint.paired.induct with
    | case1 => rfl
    | case2 p => rfl
    | case3 p q rest pair ih =>
      rw [CodePoint.paired, if_pos pair, List.flatMap_cons, ih]
      rw [Bool.and_eq_true] at pair
      rw [CodePoint.joinedUnits pair.1 pair.2, List.flatMap_cons, List.flatMap_cons, List.append_assoc]
    | case4 p q rest single ih =>
      rw [CodePoint.paired, if_neg single, List.flatMap_cons, ih]
      rfl
  exact each t.points

end UtilityLayout

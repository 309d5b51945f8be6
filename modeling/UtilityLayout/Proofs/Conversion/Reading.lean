import UtilityLayout.Proofs.Conversion.Operations
import UtilityLayout.Proofs.Results

/-! Numbers written and class names read step by step, with a fault wherever a partial operation has no result. No
step has one: the tests before each operation keep it inside its domain, and the answer is that of the plain reading. -/
namespace UtilityLayout.Checked
open Utility (segments hyphenated nameOf is bracketed? withoutPixels? sidesOfLetter? defaultBorderWidth bound? axisOf
  narrowed defaultRadiusName fraction?)

def fixed (places : Nat) (x : Binary64) : Except Fault String := do
  let (negative, count) ← quantize places (if x.isZero then .zero else x)
  let scale := Nat.pow 10 places
  let fraction := Binary64.padLeft places (Nat.toDigits 10 (count % scale))
  .ok (String.ofList (Binary64.signText negative ++ Nat.toDigits 10 (count / scale) ++
    if places = 0 then [] else '.' :: fraction))

def nonFinite : Binary64 → String
  | .infinite negative => Expression.nonFiniteText negative
  | _ => Expression.notNumber

def number (x : Binary64) : Except Fault String :=
  if x.isFinite then fixed 1 x else .ok (nonFinite x)

def percentage (fraction : Binary64) : Except Fault String :=
  let percent := fraction * 100
  if percent.isFinite then do .ok ("'" ++ (← fixed 0 percent) ++ "%'") else .ok (nonFinite percent)

def value : LayoutValue → Except Fault Text
  | .number x => do .ok (.ofString (← number x))
  | .literal text => .ok text

theorem quantizeUnsigned {places : Nat} (few : places ≤ 1) (negative : Bool) (m : Magnitude) :
    quantize places (if (Binary64.finite negative m).isZero then .zero else .finite negative m) =
      .ok (negative && m.units != 0, roundHalfUp (m.units * Nat.pow 10 places) unitsPerOne) := by
  by_cases zero : m.units = 0
  · have none : m = .zero := Magnitude.unitsExt zero
    rw [none, Binary64.isZero, if_pos (by rfl), Binary64.zero, quantizeFinite few]
    simp [Magnitude.zero]
  · rw [Binary64.isZero, if_neg (by simpa using zero), quantizeFinite few]
    simp [zero]

theorem fixedChecked {places : Nat} (few : places ≤ 1) (negative : Bool) (m : Magnitude) :
    fixed places (.finite negative m) = .ok (Expression.fixedText places negative m.units unitsPerOne) := by
  rw [fixed, quantizeUnsigned few]
  rfl

theorem numberChecked (x : Binary64) : number x = .ok (Expression.number x) := by
  cases x with
  | nan => rfl
  | infinite negative => rfl
  | finite negative m => exact fixedChecked (Nat.le_refl 1) negative m

theorem percentageChecked (fraction : Binary64) :
    percentage fraction = .ok (Expression.percentage fraction) := by
  unfold percentage Expression.percentage
  cases fraction * 100 with
  | nan => rfl
  | infinite negative => rfl
  | finite negative m =>
    have text := fixedChecked (Nat.zero_le 1) negative m
    simp [Binary64.isFinite, text]

theorem valueChecked (v : LayoutValue) : value v = .ok (Expression.value v) := by
  cases v with
  | number x => simp [value, numberChecked, Expression.value]
  | literal text => rfl

def number? (text : List Char) : Except Fault (Option Binary64) :=
  if Numeral.IsNumeral (Numeral.dropFinalNewline text) then do .ok (some (← float text)) else .ok none

def borderWidth (text : List Char) : Except Fault Binary64 := do
  match bracketed? text with
  | some inner =>
    let bare ← match withoutPixels? inner with
      | some bare => number? bare
      | none => .ok none
    match bare with
    | some width => .ok width
    | none => .ok ((← number? inner).getD defaultBorderWidth)
  | none => .ok ((← number? text).getD defaultBorderWidth)

def ofBorder (parts : List (List Char)) : Except Fault Utility := do
  if 2 ≤ parts.length then
    let segment ← item parts 1
    if (sidesOfLetter? segment).isSome then
      let sides ← demand .noKey (sidesOfLetter? segment)
      let width ← if 3 ≤ parts.length then item parts 2 else .ok ['1']
      .ok (.border sides (← borderWidth width))
    else .ok (.border .full (← borderWidth segment))
  else .ok (.border .full (← borderWidth ['1']))

def limitKeys : Table (List Char × Axis) ConstraintKey := .ofList [
  (("min".toList, .width), ⟨.least, .width⟩),
  (("min".toList, .height), ⟨.least, .height⟩),
  (("max".toList, .width), ⟨.greatest, .width⟩),
  (("max".toList, .height), ⟨.greatest, .height⟩)]

def ofConstraint (theme : Theme) (parts : List (List Char)) : Except Fault (Option Utility) := do
  let axis := axisOf (← item parts 1)
  let key ← entry limitKeys (← item parts 0, axis)
  let size := hyphenated (parts.drop 2)
  if (theme.sizes.find? (.ofChars size)).isSome then
    .ok (some (.constraint key (narrowed axis (← entry theme.sizes (.ofChars size)))))
  else
    .ok ((← number? size).map fun n => .constraint key (.number (n * theme.spacingUnit)))

def ofRadius (theme : Theme) (parts : List (List Char)) : Except Fault (Option Utility) := do
  let rest := hyphenated (parts.drop 1)
  let name := Text.ofChars (if rest.isEmpty then defaultRadiusName else rest)
  if (theme.radii.find? name).isSome then .ok (some (.radius (← entry theme.radii name))) else .ok none

def ofLast (theme : Theme) (segment : List Char) : Except Fault (Option Utility) := do
  if is segment "px" then .ok (some (.spacing 1))
  else
    match fraction? segment with
    | some (numerator, denominator) =>
      let dividend ← float numerator
      let divisor ← float denominator
      if divisor.isZero then .ok none
      else .ok (some (.other (.literal (← percentage (← quotient dividend divisor)))))
    | none => .ok ((← number? segment).map fun n => .spacing (n * theme.spacingUnit))

def ofLimit (theme : Theme) (parts : List (List Char)) : Except Fault (Option Utility) := do
  let first ← item parts 0
  if (is first "max" || is first "min") && 2 ≤ parts.length then ofConstraint theme parts else .ok none

def ofSegments (theme : Theme) (parts : List (List Char)) : Except Fault (Option Utility) := do
  let first ← item parts 0
  if is first "border" then .ok (some (← ofBorder parts))
  else
    match ← ofLimit theme parts with
    | some utility => .ok (some utility)
    | none => if is first "rounded" then ofRadius theme parts else ofLast theme (← last parts)

def read? (theme : Theme) (written : List Char) : Except Fault (Option Utility) := do
  let name := nameOf written
  if name.isEmpty then .ok none
  else if (theme.keywords.find? (.ofChars name)).isSome then
    .ok (some (.keyword (← entry theme.keywords (.ofChars name))))
  else ofSegments theme (segments name)

theorem numeralChecked (text : List Char) : number? text = .ok (Numeral.number? text) := by
  have accepted := Numeral.numberIsSome text
  unfold number?
  cases read : Numeral.number? text with
  | none =>
    rw [read] at accepted
    rw [if_neg (mt accepted.mpr (by simp))]
  | some x =>
    rw [read] at accepted
    rw [if_pos (accepted.mp rfl), floatNumber read]
    rfl

theorem borderWidthChecked (text : List Char) : borderWidth text = .ok (Utility.borderWidth text) := by
  unfold borderWidth Utility.borderWidth
  cases bracketed? text with
  | none => simp [numeralChecked]
  | some inner =>
    cases pixels : withoutPixels? inner with
    | none => simp [pixels, numeralChecked]
    | some bare => cases read : Numeral.number? bare <;> simp [pixels, numeralChecked, read]

theorem ofBorderChecked (first : List Char) (rest : List (List Char)) :
    ofBorder (first :: rest) = .ok (Utility.ofBorder rest) := by
  unfold ofBorder Utility.ofBorder
  cases rest with
  | nil => simp [borderWidthChecked]
  | cons segment more =>
    cases found : sidesOfLetter? segment with
    | none => simp [item, demand, found, borderWidthChecked]
    | some sides => cases more <;> simp [item, demand, found, borderWidthChecked]

theorem limitKeyFound {first : List Char} {bound : Bound} (found : bound? first = some bound) (axis : Axis) :
    entry limitKeys (first, axis) = .ok ⟨bound, axis⟩ := by
  unfold bound? at found
  split at found
  · rename_i greatest
    cases found
    cases eq_of_beq greatest
    cases axis <;> rfl
  · split at found
    · rename_i least
      cases found
      cases eq_of_beq least
      cases axis <;> rfl
    · contradiction

theorem ofConstraintChecked (theme : Theme) {first : List Char} {bound : Bound} (found : bound? first = some bound)
    (segment : List Char) (more : List (List Char)) :
    ofConstraint theme (first :: segment :: more) = .ok (Utility.ofConstraint? theme bound (segment :: more)) := by
  have key := limitKeyFound found (axisOf segment)
  unfold ofConstraint Utility.ofConstraint?
  cases size : theme.sizes.find? (.ofChars (hyphenated more)) with
  | none => simp [item, demand, key, size, numeralChecked]
  | some limit => simp [item, demand, key, size, entryFound size]

theorem ofRadiusChecked (theme : Theme) (first : List Char) (rest : List (List Char)) :
    ofRadius theme (first :: rest) = .ok (Utility.ofRadius? theme rest) := by
  unfold ofRadius Utility.ofRadius?
  simp only [List.drop_succ_cons, List.drop_zero]
  generalize (if (hyphenated rest).isEmpty then defaultRadiusName else hyphenated rest) = name
  cases radius : theme.radii.find? (.ofChars name) with
  | none => simp
  | some v => simp [entryFound radius]

theorem ofLastChecked (theme : Theme) (segment : List Char) :
    ofLast theme segment = .ok (Utility.ofLast? theme segment) := by
  unfold ofLast Utility.ofLast?
  split
  · rfl
  · cases found : fraction? segment with
    | none => simp [numeralChecked]
    | some parts =>
      obtain ⟨numerator, denominator⟩ := parts
      have written := Utility.fractionRead.mp found
      have dividend := floatDigits written.2.1.1 written.2.1.2
      have divisor := floatDigits written.2.2.1 written.2.2.2
      cases zero : (Numeral.ofDigits denominator).isZero with
      | true => simp [dividend, divisor, zero]
      | false =>
        have divided := quotientDefined zero (Numeral.ofDigits numerator)
        simp [dividend, divisor, zero, divided, percentageChecked]

theorem ofLimitChecked (theme : Theme) (first : List Char) (rest : List (List Char)) :
    ofLimit theme (first :: rest) = .ok ((bound? first).bind (Utility.ofConstraint? theme · rest)) := by
  have word : (is first "max" || is first "min") = (bound? first).isSome := by
    unfold bound?
    cases is first "max" <;> cases is first "min" <;> rfl
  rw [ofLimit, itemHead, okBind, word]
  cases rest with
  | nil => cases bound? first <;> simp [Utility.ofConstraint?]
  | cons segment more =>
    cases found : bound? first with
    | none => simp
    | some bound => simp [ofConstraintChecked theme found]

theorem ofSegmentsChecked (theme : Theme) (first : List Char) (rest : List (List Char)) :
    ofSegments theme (first :: rest) = .ok (Utility.ofSegments? theme first rest) := by
  rw [ofSegments, Utility.ofSegments?, itemHead, okBind, ofLimitChecked, okBind, ofBorderChecked, okBind, lastCons,
    okBind, ofRadiusChecked, ofLastChecked]
  by_cases border : is first "border" = true
  · simp [border]
  · cases (bound? first).bind (Utility.ofConstraint? theme · rest) with
    | some utility => simp [border]
    | none => by_cases rounded : is first "rounded" = true <;> simp [border, rounded]

theorem readChecked (theme : Theme) (written : List Char) :
    read? theme written = .ok (Utility.read? theme written) := by
  obtain ⟨first, rest, cut⟩ := Utility.segmentsCons (nameOf written)
  have plain : Utility.read? theme written = Utility.ofName? theme (nameOf written) := rfl
  rw [plain, read?, Utility.ofName?, cut]
  by_cases empty : (nameOf written).isEmpty = true
  · simp [empty]
  · cases found : theme.keywords.find? (.ofChars (nameOf written)) with
    | none => simp [empty, ofSegmentsChecked]
    | some text => simp [empty, entryFound found]

end UtilityLayout.Checked

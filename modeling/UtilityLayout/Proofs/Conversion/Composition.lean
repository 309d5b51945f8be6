import UtilityLayout.Layout.Composition
import UtilityLayout.Proofs.Conversion.Reading

/-! Whole conversions step by step, with a fault wherever a partial operation has no result. -/
namespace UtilityLayout.Checked

def argument (limit : ConstraintKey × LayoutValue) : Except Fault Text := do
  .ok (Text.ofString (limit.1.name ++ ": ") ++ (← value limit.2))

def constraintsText? (c : Constraints) : Except Fault (Option Text) :=
  if c.isEmpty then .ok none
  else do
    let arguments ← c.entries.mapM argument
    .ok (some (Text.ofString "BoxConstraints(" ++ Text.intercalate ", " arguments ++ Text.ofString ")"))

def sideText (entry : Side × Binary64) : Except Fault String := do
  .ok (entry.1.name ++ ": " ++ ("BorderSide(width: " ++ (← number entry.2) ++ ")"))

def borderText? (b : BorderWidths) : Except Fault (Option String) :=
  if b.isEmpty then .ok none
  else
    match b.uniform? with
    | some width => do .ok (some ("Border.all(width: " ++ (← number width) ++ ")"))
    | none => do
      let sides ← b.resolved.mapM sideText
      .ok (some ("Border(" ++ ", ".intercalate sides ++ ")"))

def add (l : Layout) : Utility → Except Fault Layout
  | .border sides width => .ok (l.add (.border sides width))
  | .constraint key v => .ok (l.add (.constraint key v))
  | .keyword text => .ok { l with others := l.others ++ [text] }
  | .radius v | .other v => do .ok { l with others := l.others ++ [← value v] }
  | .spacing x => do .ok { l with others := l.others ++ [.ofString (← number x)] }

def compose (l : Layout) : Except Fault Layout.Composition := do
  let constraints ← constraintsText? l.constraints
  let border ← borderText? l.borders
  let entries := constraints.toList ++ (border.map Text.ofString).toList ++ l.others
  if entries.isEmpty then .ok ⟨Layout.emptyText, .empty, []⟩
  else if entries.length = 1 then .ok ⟨← item entries 0, .single, entries⟩
  else
    .ok ⟨Text.ofString "[" ++ Text.intercalate ", " entries ++ Text.ofString "]", .aggregate, entries⟩

def convert (theme : Theme) (classes : String) : Except Fault Layout.Composition := do
  let utilities ← (Text.words classes.toList).mapM (read? theme)
  compose (← (utilities.filterMap id).foldlM add .empty)

def explain (theme : Theme) (classes : String) : Except Fault (List Reading) :=
  (Text.words classes.toList).mapM fun word => do .ok ⟨String.ofList word, ← read? theme word⟩

theorem argumentChecked (limit : ConstraintKey × LayoutValue) :
    argument limit = .ok (Constraints.argument limit) := by
  rw [argument, valueChecked]
  rfl

theorem constraintsChecked (c : Constraints) : constraintsText? c = .ok (Constraints.text? c) := by
  unfold constraintsText? Constraints.text?
  rw [mapMTotal argumentChecked]
  split <;> rfl

theorem sideChecked (entry : Side × Binary64) :
    sideText entry = .ok (entry.1.name ++ ": " ++ BorderWidths.sideText entry.2) := by
  rw [sideText, numberChecked]
  rfl

theorem borderChecked (b : BorderWidths) : borderText? b = .ok b.text? := by
  unfold borderText? BorderWidths.text?
  rw [mapMTotal sideChecked]
  split
  · rfl
  · cases b.uniform? with
    | none => rfl
    | some width => simp [numberChecked]

theorem addChecked (l : Layout) (u : Utility) : add l u = .ok (l.add u) := by
  cases u <;> simp [add, Layout.add, valueChecked, numberChecked]

theorem composeChecked (l : Layout) : compose l = .ok l.compose := by
  rw [compose, constraintsChecked, okBind, borderChecked, okBind, Layout.compose, Layout.entries]
  generalize (Constraints.text? l.constraints).toList ++ (l.borders.text?.map Text.ofString).toList ++ l.others = all
  cases all with
  | nil => rfl
  | cons first rest => cases rest <;> rfl

theorem convertChecked (theme : Theme) (classes : String) :
    convert theme classes = .ok (theme.convert classes) := by
  rw [convert, mapMTotal (readChecked theme), okBind, foldlMTotal addChecked, okBind, composeChecked,
    List.filterMap_map]
  rfl

theorem explainChecked (theme : Theme) (classes : String) :
    explain theme classes = .ok (theme.explain classes) := by
  refine mapMTotal (fun word => ?_) _
  rw [readChecked]
  rfl

/- No conversion and no explanation meets a fault, whatever the theme and the text; and each operation is inside its
domain for reasons of its own. What the patterns accept is a number, a divisor is zero only if all its digits are, and a
finite number with one place at most has few enough digits. -/
theorem conversionDefined (theme : Theme) (classes : String) :
    convert theme classes = .ok (theme.convert classes) ∧
    explain theme classes = .ok (theme.explain classes) ∧
    (∀ text, Numeral.IsNumeral (Numeral.dropFinalNewline text) → ∃ x, float text = .ok x) ∧
    (∀ text numerator denominator, Utility.fraction? text = some (numerator, denominator) →
      float numerator = .ok (Numeral.ofDigits numerator) ∧ float denominator = .ok (Numeral.ofDigits denominator) ∧
      ((Numeral.ofDigits denominator).isZero = true ↔ Text.digitsValue denominator = 0)) ∧
    ∀ (places : Nat) (m : Magnitude), places ≤ 1 →
      (Nat.toDigits 10 (roundHalfUp (m.units * Nat.pow 10 places) unitsPerOne)).length ≤ mostDigits := by
  refine ⟨convertChecked theme classes, explainChecked theme classes, ?_, ?_, ?_⟩
  · intro text numeral
    obtain ⟨x, read⟩ := Option.isSome_iff_exists.mp ((Numeral.numberIsSome text).mpr numeral)
    exact ⟨x, floatNumber read⟩
  · intro text numerator denominator parts
    obtain ⟨_, dividend, divisor⟩ := Utility.fractionRead.mp parts
    exact ⟨floatDigits dividend.1 dividend.2, floatDigits divisor.1 divisor.2, Utility.digitsZero denominator⟩
  · intro places m few
    exact digitsFew few m

end UtilityLayout.Checked

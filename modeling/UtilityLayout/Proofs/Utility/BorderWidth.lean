import UtilityLayout.Utility.Reading

/-! Borders that come from class names. Only the border rule makes a border, on one side at least, and the width it
gives is a numeral's number or the default: never not-a-number, whatever the theme. -/
namespace UtilityLayout.Utility

theorem numberNotNan {text : List Char} {x : Binary64} (read : Numeral.number? text = some x) :
    x ≠ .nan := by
  simp only [Numeral.number?, Option.map_eq_some_iff] at read
  obtain ⟨decimal, _, rfl⟩ := read
  exact decimal.toBinary64NotNan

theorem numberOrDefaultNotNan (text : List Char) :
    (Numeral.number? text).getD defaultBorderWidth ≠ .nan := by
  cases read : Numeral.number? text with
  | none =>
    rw [Option.getD_none]
    exact Binary64.ofNatNotNan 1
  | some x => exact numberNotNan read

theorem borderWidthNotNan (text : List Char) : borderWidth text ≠ .nan := by
  unfold borderWidth
  split
  · rename_i inner _
    split
    · rename_i width pixels
      obtain ⟨number, _, read⟩ := Option.bind_eq_some_iff.mp pixels
      exact numberNotNan read
    · exact numberOrDefaultNotNan inner
  · exact numberOrDefaultNotNan text

theorem ofBorderWidth {rest : List (List Char)} {sides width}
    (made : ofBorder rest = .border sides width) :
    ∃ text, (text ∈ rest ∨ text = ['1']) ∧ width = borderWidth text := by
  cases rest with
  | nil =>
    cases made
    exact ⟨_, .inr rfl, rfl⟩
  | cons segment more =>
    simp only [ofBorder] at made
    split at made
    · cases made
      cases more with
      | nil => exact ⟨_, .inr rfl, rfl⟩
      | cons next others => exact ⟨next, .inl (by simp), rfl⟩
    · cases made
      exact ⟨_, .inl List.mem_cons_self, rfl⟩

theorem letterSides {segment : List Char} {sides : SideSet}
    (letter : sidesOfLetter? segment = some sides) : ∃ side, sides.contains side = true := by
  unfold sidesOfLetter? at letter
  split at letter
  · cases letter; exact ⟨.top, rfl⟩
  · cases letter; exact ⟨.right, rfl⟩
  · cases letter; exact ⟨.bottom, rfl⟩
  · cases letter; exact ⟨.left, rfl⟩
  · cases letter; exact ⟨.left, rfl⟩
  · cases letter; exact ⟨.top, rfl⟩
  · contradiction

theorem ofBorderSides {rest : List (List Char)} {sides width}
    (made : ofBorder rest = .border sides width) : ∃ side, sides.contains side = true := by
  cases rest with
  | nil =>
    cases made
    exact ⟨.top, rfl⟩
  | cons segment more =>
    simp only [ofBorder] at made
    split at made
    · rename_i found letter
      cases made
      exact letterSides letter
    · cases made
      exact ⟨.top, rfl⟩

theorem ofConstraintNoBorder {theme : Theme} {bound : Bound} {rest : List (List Char)} {sides width} :
    ofConstraint? theme bound rest ≠ some (.border sides width) := by
  cases rest with
  | nil => simp [ofConstraint?]
  | cons segment more =>
    simp only [ofConstraint?]
    split
    · simp
    · simp

theorem ofRadiusNoBorder {theme : Theme} {rest : List (List Char)} {sides width} :
    ofRadius? theme rest ≠ some (.border sides width) := by
  simp [ofRadius?]

theorem ofLastNoBorder {theme : Theme} {segment : List Char} {sides width} :
    ofLast? theme segment ≠ some (.border sides width) := by
  unfold ofLast?
  split
  · simp
  · split
    · dsimp only
      split <;> simp
    · simp

theorem borderOfSegments {theme : Theme} {first : List Char} {rest : List (List Char)} {sides width}
    (read : ofSegments? theme first rest = some (.border sides width)) :
    ofBorder rest = .border sides width := by
  unfold ofSegments? at read
  split at read
  · exact Option.some.inj read
  · split at read
    · rename_i utility found
      obtain ⟨bound, _, made⟩ := Option.bind_eq_some_iff.mp found
      exact absurd (made.trans read) ofConstraintNoBorder
    · split at read
      · exact absurd read ofRadiusNoBorder
      · exact absurd read ofLastNoBorder

theorem borderOfRead {theme : Theme} {written : List Char} {sides width}
    (read : read? theme written = some (.border sides width)) :
    ∃ name first rest, segments name = first :: rest ∧ ofBorder rest = .border sides width := by
  unfold read? ofName? at read
  split at read
  · contradiction
  · split at read
    · cases read
    · split at read
      · contradiction
      · rename_i cut
        exact ⟨_, _, _, cut, borderOfSegments read⟩

theorem borderReadNotNan {theme : Theme} {written : List Char} {sides width}
    (read : read? theme written = some (.border sides width)) : width ≠ .nan := by
  obtain ⟨_, _, rest, _, made⟩ := borderOfRead read
  obtain ⟨text, _, rfl⟩ := ofBorderWidth made
  exact borderWidthNotNan text

end UtilityLayout.Utility

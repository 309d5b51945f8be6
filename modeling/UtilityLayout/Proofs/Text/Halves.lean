import UtilityLayout.Text.Basic

/-! Halves of surrogate pairs side by side. A first half and a second half after it name one character, and a reader of
escapes cannot tell the two from that character. A text in which no two halves stand so is what it is taken for. -/
namespace UtilityLayout

namespace CodePoint

def isHigh : CodePoint → Bool
  | half offset => offset.val < 0x400
  | char _ => false

def isLow : CodePoint → Bool
  | half offset => 0x400 ≤ offset.val
  | char _ => false

def joined (high low : CodePoint) : CodePoint :=
  .ofNat (0x10000 + (high.code - 0xd800) * 0x400 + (low.code - 0xdc00))

def paired : List CodePoint → List CodePoint
  | [] => []
  | [p] => [p]
  | p :: q :: rest =>
    if p.isHigh && q.isLow then joined p q :: paired rest else p :: paired (q :: rest)

def Apart (points : List CodePoint) : Prop :=
  ∀ before p q after, points = before ++ p :: q :: after → ¬(p.isHigh = true ∧ q.isLow = true)

theorem joinedChar {p q : CodePoint} (high : p.isHigh = true) (low : q.isLow = true) :
    ∃ c, joined p q = char c := by
  cases p with
  | char c => contradiction
  | half a =>
    cases q with
    | char c => contradiction
    | half b =>
      rw [joined, ofNat, dif_neg (by omega)]
      exact ⟨_, rfl⟩

theorem apartCons {p q : CodePoint} {rest : List CodePoint} :
    Apart (p :: q :: rest) ↔ ¬(p.isHigh = true ∧ q.isLow = true) ∧ Apart (q :: rest) := by
  constructor
  · intro apart
    refine ⟨apart [] p q rest rfl, fun before r s after same => ?_⟩
    exact apart (p :: before) r s after (by rw [same]; rfl)
  · intro ⟨here, later⟩ before r s after same
    cases before with
    | nil =>
      cases same
      exact here
    | cons first others =>
      obtain ⟨rfl, tail⟩ := List.cons.inj same
      exact later others r s after tail

theorem pairedApart (points : List CodePoint) : paired points = points ↔ Apart points := by
  induction points using paired.induct with
  | case1 =>
    refine iff_of_true rfl fun before p q after same => ?_
    simp at same
  | case2 p =>
    refine iff_of_true rfl fun before q r after same => ?_
    have length := congrArg List.length same
    simp at length
    omega
  | case3 p q rest pair _ =>
    rw [paired, if_pos pair, apartCons]
    rw [Bool.and_eq_true] at pair
    refine iff_of_false (fun same => ?_) fun apart => apart.1 pair
    obtain ⟨c, char⟩ := joinedChar pair.1 pair.2
    rw [char] at same
    have first := (List.cons.inj same).1
    subst first
    exact absurd pair.1 (by simp [isHigh])
  | case4 p q rest other ih =>
    rw [Bool.and_eq_true] at other
    rw [paired, if_neg (by simpa using other), apartCons, ← ih, List.cons_inj_right]
    exact (and_iff_right other).symm

end CodePoint

namespace Text

def paired (t : Text) : Text :=
  ⟨CodePoint.paired t.points⟩

theorem pairedSame (t : Text) : t.paired = t ↔ CodePoint.Apart t.points := by
  rw [← CodePoint.pairedApart, Text.ext_iff]
  rfl

theorem pairedString (s : String) : (ofString s).paired = ofString s := by
  rw [pairedSame]
  intro before p q after same
  have inside : p ∈ (ofString s).points := by
    rw [same]
    simp
  obtain ⟨c, _, rfl⟩ := List.mem_map.mp inside
  simp [CodePoint.isHigh]

end Text

end UtilityLayout

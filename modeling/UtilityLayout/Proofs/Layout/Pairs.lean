import UtilityLayout.Layout.Composition
import UtilityLayout.Proofs.Text.Pieces

/-! The order of limits. In a list of first occurrences a repetition moves what is repeated only where something new
comes between; and the text of limits tells their order, whatever their values say. -/
namespace UtilityLayout

section Firsts
variable {α : Type} [DecidableEq α] {before after : List α} {a : α}

theorem headNew (new : a ∉ before) (again : a ∈ after) :
    (after.removeAll before).head? = some a ↔ ∀ b ∈ after.takeWhile (· ≠ a), b ∈ before := by
  induction after with
  | nil => cases again
  | cons c rest ih =>
    by_cases here : c = a
    · subst here
      simp [List.removeAll, new]
    · have later : a ∈ rest := (List.mem_cons.mp again).resolve_left (Ne.symm here)
      by_cases known : c ∈ before
      · have next : (c :: rest).removeAll before = rest.removeAll before := by simp [List.removeAll, known]
        rw [next, ih later, List.takeWhile_cons_of_pos (by simpa using here), List.forall_mem_cons]
        simp [known]
      · simp [List.removeAll, known, here]

theorem eraseDupsAgain {l : List α} : (a :: l).eraseDups = l.eraseDups ↔ l.head? = some a := by
  cases l with
  | nil => simp [List.eraseDups_cons]
  | cons b rest =>
    rw [List.eraseDups_cons, List.eraseDups_cons, List.head?_cons, Option.some.injEq]
    constructor
    · intro same
      exact (List.cons.inj same).1.symm
    · rintro rfl
      simp

theorem firstsMoved (again : a ∈ after) :
    (before ++ a :: after).eraseDups ≠ (before ++ after).eraseDups ↔
      a ∉ before ∧ ∃ b ∈ after.takeWhile (· ≠ a), b ∉ before := by
  rw [List.eraseDups_append, List.eraseDups_append, Ne, List.append_cancel_left_eq]
  by_cases old : a ∈ before
  · simp [List.removeAll, old]
  · have kept : (a :: after).removeAll before = a :: after.removeAll before := by simp [List.removeAll, old]
    rw [kept, eraseDupsAgain, headNew old again]
    simp [old]

end Firsts

namespace Constraints
open Text (join)

theorem namesApart {key other : ConstraintKey} (same : key.name.toList.take 4 = other.name.toList.take 4) :
    key = other := by
  obtain ⟨bound, axis⟩ := key
  obtain ⟨bound', axis'⟩ := other
  cases bound <;> cases axis <;> cases bound' <;> cases axis' <;> first | rfl | exact absurd same (by decide)

def further (separator : List CodePoint) (pieces : List (List CodePoint)) : List CodePoint :=
  if pieces = [] then [] else separator ++ join separator pieces

theorem joinFurther (separator piece : List CodePoint) (pieces : List (List CodePoint)) :
    join separator (piece :: pieces) = piece ++ further separator pieces := by
  cases pieces with
  | nil => exact (List.append_nil piece).symm
  | cons next others => rw [Text.joinNext, List.append_assoc, further, if_neg (List.cons_ne_nil next others)]

theorem furtherSame {separator : List CodePoint} (filled : separator ≠ []) {first second : List (List CodePoint)}
    (same : further separator first = further separator second) : join separator first = join separator second := by
  have longer (rest : List CodePoint) : separator ++ rest ≠ [] :=
    fun nothing => filled (List.append_eq_nil_iff.mp nothing).1
  unfold further at same
  split at same
  · rename_i none
    split at same
    · rename_i none'
      rw [none, none']
    · exact absurd same.symm (longer _)
  · split at same
    · exact absurd same (longer _)
    · exact List.append_cancel_left same

theorem argumentPoints (entry : ConstraintKey × LayoutValue) :
    (argument entry).points =
      entry.1.name.toList.map .char ++ ([.char ':', .char ' '] ++ (Expression.value entry.2).points) := by
  simp [argument]

theorem nameLength (key : ConstraintKey) : 4 ≤ (key.name.toList.map CodePoint.char).length := by
  obtain ⟨bound, axis⟩ := key
  cases bound <;> cases axis <;> decide

theorem argumentSome (entry : ConstraintKey × LayoutValue) (rest : List CodePoint) :
    (argument entry).points ++ rest ≠ [] := by
  intro nothing
  have long := nameLength entry.1
  rw [argumentPoints, List.append_eq_nil_iff, List.append_eq_nil_iff] at nothing
  rw [nothing.1.1] at long
  contradiction

theorem argumentHead {entry other : ConstraintKey × LayoutValue} {rest more : List CodePoint}
    (same : (argument entry).points ++ rest = (argument other).points ++ more) : entry.1 = other.1 := by
  have start := congrArg (List.take 4) same
  simp only [argumentPoints, List.append_assoc, List.take_append_of_le_length (nameLength _),
    ← List.map_take] at start
  exact namesApart ((List.map_inj_right fun _ _ => CodePoint.char.inj).mp start)

theorem argumentsTell {separator : List CodePoint} (filled : separator ≠ [])
    {first second : List (ConstraintKey × LayoutValue)}
    (agree : ∀ entry ∈ first, ∀ other ∈ second, entry.1 = other.1 → entry = other)
    (same : join separator (first.map fun entry => (argument entry).points) =
      join separator (second.map fun entry => (argument entry).points)) : first = second := by
  induction first generalizing second with
  | nil =>
    cases second with
    | nil => rfl
    | cons other more =>
      rw [List.map_cons, joinFurther] at same
      exact absurd same.symm (argumentSome other _)
  | cons entry rest ih =>
    cases second with
    | nil =>
      rw [List.map_cons, joinFurther] at same
      exact absurd same (argumentSome entry _)
    | cons other more =>
      rw [List.map_cons, List.map_cons, joinFurther, joinFurther] at same
      have here := agree entry List.mem_cons_self other List.mem_cons_self (argumentHead same)
      subst here
      have further := furtherSame filled (List.append_cancel_left same)
      rw [ih (fun e inside o there => agree e (List.mem_cons_of_mem _ inside) o (List.mem_cons_of_mem _ there)) further]

theorem textNone {c : Constraints} : text? c = none ↔ c.entries = [] := by
  rw [text?, Table.isEmpty, ← List.isEmpty_iff]
  cases c.entries.isEmpty <;> simp

theorem textTells {c d : Constraints} (agree : ∀ key, c.find? key = d.find? key)
    (same : text? c = text? d) : c = d := by
  have entries : ∀ entry ∈ c.entries, ∀ other ∈ d.entries, entry.1 = other.1 → entry = other := by
    intro entry inside other there key
    have found := c.findMember inside
    rw [agree, key, d.findMember there] at found
    exact Prod.ext key (Option.some.inj found).symm
  apply Table.entriesExt
  unfold text? Table.isEmpty at same
  by_cases none : c.entries = []
  · by_cases none' : d.entries = []
    · rw [none, none']
    · simp [none, none'] at same
  · by_cases none' : d.entries = []
    · simp [none, none'] at same
    · simp only [List.isEmpty_iff, none, none', if_false, Option.some.injEq, Text.ext_iff, Text.pointsAppend,
        List.append_cancel_left_eq, List.append_cancel_right_eq, Text.intercalate, List.map_map] at same
      exact argumentsTell (by decide) entries same

end Constraints
end UtilityLayout

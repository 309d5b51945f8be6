import UtilityLayout.Utility.Reading
import UtilityLayout.Proofs.Numeral.Literals

/-! Widths of borders, told by their spellings: a numeral alone, in brackets, or in brackets with the unit of pixels.
All three are the number that the numeral says, and every other text is the default width. -/
namespace UtilityLayout.Utility
open Numeral (number? dropFinalNewline Ended IsNumeral Spelled classStyle)

inductive WidthSpelled (numeral : List Char) : List Char → Prop where
  | plain : WidthSpelled numeral numeral
  | bracketed : WidthSpelled numeral ('[' :: (numeral ++ [']']))
  | pixels : WidthSpelled numeral ('[' :: (numeral ++ ['p', 'x', ']']))

variable {text inner body numeral : List Char} {x : Binary64}

theorem bracketedRead : bracketed? text = some inner ↔
    dropFinalNewline text = '[' :: (inner ++ [']']) ∧ inner ≠ [] ∧ '\n' ∉ inner := by
  unfold bracketed?
  constructor
  · intro found
    split at found
    · rename_i rest brackets
      dsimp only at found
      split at found
      · rename_i closed
        cases found
        simp only [Bool.and_eq_true, decide_eq_true_eq, Bool.not_eq_true', List.isEmpty_eq_false_iff,
          List.contains_eq_mem, decide_eq_false_iff_not] at closed
        obtain ⟨⟨last, some⟩, oneLine⟩ := closed
        refine ⟨?_, some, oneLine⟩
        rw [brackets, List.dropLast_append_getLast? _ last]
      · contradiction
    · contradiction
  · rintro ⟨brackets, some, oneLine⟩
    simp [brackets, some, oneLine]

theorem pixelsRead : withoutPixels? text = some inner ↔ text = inner ++ ['p', 'x'] := by
  unfold withoutPixels?
  constructor
  · intro found
    split at found
    · rename_i rest backwards
      cases found
      rw [← List.reverse_reverse text, backwards]
      simp
    · contradiction
  · rintro rfl
    simp

theorem numeralOfNumber (oneLine : '\n' ∉ numeral) (read : number? numeral = some x) : IsNumeral numeral := by
  have accepted := (Numeral.numberIsSome numeral).mp (read ▸ rfl)
  rwa [Numeral.newlineKept (Numeral.oneLineEnds oneLine)] at accepted

theorem numeralLacks (spelled : IsNumeral numeral) {c : Char} (other : Text.isDigit c = false)
    (apart : c ∉ ['e', '+', '-', '.']) : c ∉ numeral := by
  obtain ⟨decimal, spelled⟩ := spelled
  intro inside
  rw [List.mem_cons, not_or] at apart
  rcases (Numeral.spelledCharacters spelled).2 c inside with digit | mark | sign
  · exact Bool.false_ne_true (other.symm.trans digit)
  · exact apart.1 (eq_of_beq mark)
  · exact apart.2 sign

theorem plainWidth (ended : Ended text numeral) (oneLine : '\n' ∉ numeral) (read : number? numeral = some x) :
    borderWidth text = x := by
  have spelled := numeralOfNumber oneLine read
  have last := Numeral.oneLineEnds oneLine
  have dropped := Numeral.endedDropped ended last
  have bare : bracketed? text = none := by
    rw [Option.eq_none_iff_forall_ne_some]
    intro inner found
    have brackets := (bracketedRead.mp found).1
    refine numeralLacks spelled (c := '[') (by decide) (by decide) ?_
    rw [← dropped, brackets]
    exact List.mem_cons_self
  have same : number? text = number? numeral := by
    rw [number?, number?, dropped, Numeral.newlineKept last]
  rw [borderWidth, bare, same, read]
  rfl

theorem bracketsDropped (ended : Ended text ('[' :: (inner ++ [']']))) :
    dropFinalNewline text = '[' :: (inner ++ [']']) := by
  refine Numeral.endedDropped ended ?_
  rw [← List.cons_append, List.getLast?_concat]
  decide

theorem bracketedWidth (ended : Ended text ('[' :: (numeral ++ [']']))) (oneLine : '\n' ∉ numeral)
    (read : number? numeral = some x) : borderWidth text = x := by
  have spelled := numeralOfNumber oneLine read
  have some : numeral ≠ [] := (Numeral.spelledCharacters spelled.choose_spec).1
  have brackets : bracketed? text = .some numeral :=
    bracketedRead.mpr ⟨bracketsDropped ended, some, oneLine⟩
  have noUnit : withoutPixels? numeral = none := by
    rw [Option.eq_none_iff_forall_ne_some]
    intro inner found
    refine numeralLacks spelled (c := 'x') (by decide) (by decide) ?_
    rw [pixelsRead.mp found]
    simp
  rw [borderWidth, brackets]
  dsimp only
  rw [noUnit, Option.bind_none, read]
  rfl

theorem pixelsClosed (numeral : List Char) :
    '[' :: (numeral ++ ['p', 'x', ']']) = '[' :: (numeral ++ ['p', 'x'] ++ [']']) := by
  simp

theorem pixelsWidth (ended : Ended text ('[' :: (numeral ++ ['p', 'x', ']']))) (oneLine : '\n' ∉ numeral)
    (read : number? numeral = some x) : borderWidth text = x := by
  have unit : '\n' ∉ numeral ++ ['p', 'x'] := by simp [oneLine]
  rw [pixelsClosed] at ended
  have brackets : bracketed? text = some (numeral ++ ['p', 'x']) :=
    bracketedRead.mpr ⟨bracketsDropped ended, by simp, unit⟩
  rw [borderWidth, brackets]
  dsimp only
  rw [pixelsRead.mpr rfl, Option.bind_some, read]

def SpellsWidth (text : List Char) : Prop :=
  ∃ body numeral, Ended text body ∧ WidthSpelled numeral body ∧ '\n' ∉ numeral ∧ number? numeral ≠ none

theorem widthSpelled (other : borderWidth text ≠ defaultBorderWidth) : SpellsWidth text := by
  have ended := Numeral.droppedEnded text
  unfold borderWidth at other
  split at other
  · rename_i inner found
    obtain ⟨brackets, _, oneLine⟩ := bracketedRead.mp found
    rw [brackets] at ended
    split at other
    · rename_i width pixels
      obtain ⟨numeral, unit, read⟩ := Option.bind_eq_some_iff.mp pixels
      rw [pixelsRead.mp unit] at ended oneLine
      refine ⟨_, numeral, ended, ?_, fun inside => oneLine (List.mem_append_left _ inside), by simp [read]⟩
      rw [← pixelsClosed]
      exact .pixels
    · refine ⟨_, inner, ended, .bracketed, oneLine, fun none => other ?_⟩
      rw [none, Option.getD_none]
  · have read : number? text ≠ none := fun none => other (by rw [none, Option.getD_none])
    obtain ⟨body, decimal, ended, spelled⟩ := Numeral.endedOfNumber read
    refine ⟨body, body, ended, .plain, Numeral.spelledOneLine spelled, ?_⟩
    rw [Numeral.numberEnded .bare spelled]
    exact Option.some_ne_none _

theorem bracketsSpelled (ended : Ended text ('[' :: (inner ++ [']']))) (spells : SpellsWidth text) :
    ∃ numeral, '\n' ∉ numeral ∧ number? numeral ≠ none ∧ (inner = numeral ∨ inner = numeral ++ ['p', 'x']) := by
  obtain ⟨body, numeral, other, spelled, oneLine, read⟩ := spells
  refine ⟨numeral, oneLine, read, ?_⟩
  have brackets := bracketsDropped ended
  cases spelled with
  | plain =>
    -- A bracket is no character of a numeral.
    obtain ⟨x, found⟩ := Option.ne_none_iff_exists'.mp read
    rw [Numeral.endedDropped other (Numeral.oneLineEnds oneLine)] at brackets
    refine absurd ?_ (numeralLacks (numeralOfNumber oneLine found) (c := '[') (by decide) (by decide))
    rw [brackets]
    exact List.mem_cons_self
  | bracketed =>
    rw [bracketsDropped other] at brackets
    exact .inl (List.append_cancel_right (List.cons.inj brackets).2).symm
  | pixels =>
    rw [pixelsClosed] at other
    rw [bracketsDropped other] at brackets
    exact .inr (List.append_cancel_right (List.cons.inj brackets).2).symm

/- A width is the number of its numeral, in whichever way that is spelled, and the default for any other text: what
stands in brackets is a numeral, with the unit or without, or counts for nothing. -/
theorem widthResolved (text : List Char) :
    (∀ body numeral x, Ended text body → WidthSpelled numeral body → '\n' ∉ numeral → number? numeral = some x →
      borderWidth text = x) ∧
    (¬SpellsWidth text → borderWidth text = 1) ∧
    (∀ inner, Ended text ('[' :: (inner ++ [']'])) → borderWidth text ≠ 1 →
      ∃ numeral, '\n' ∉ numeral ∧ number? numeral ≠ none ∧ (inner = numeral ∨ inner = numeral ++ ['p', 'x'])) := by
  refine ⟨?_, fun other => ?_, fun inner ended other => bracketsSpelled ended (widthSpelled other)⟩
  · intro body numeral x ended spelled oneLine read
    cases spelled with
    | plain => exact plainWidth ended oneLine read
    | bracketed => exact bracketedWidth ended oneLine read
    | pixels => exact pixelsWidth ended oneLine read
  · by_contra same
    exact other (widthSpelled same)

theorem widthResolvedPixels :
    Ended "[२.5px]\n".toList "[२.5px]".toList ∧ WidthSpelled "२.5".toList "[२.5px]".toList ∧
      number? "२.5".toList = number? "2.5".toList ∧ (number? "2.5".toList).isSome = true ∧
      some (borderWidth "[२.5px]\n".toList) = number? "2.5".toList ∧
      ¬SpellsWidth "[3pxpx]".toList ∧ borderWidth "[3pxpx]".toList = 1 := by
  have ended : Ended "[२.5px]\n".toList "[२.5px]".toList := @Ended.newline "[२.5px]".toList
  have spelled : WidthSpelled "२.5".toList "[२.5px]".toList := .pixels
  have scripts : number? "२.5".toList = number? "2.5".toList := by decide +kernel
  have some : (number? "2.5".toList).isSome = true := by decide +kernel
  have twice : ¬SpellsWidth "[3pxpx]".toList := by
    intro spells
    obtain ⟨numeral, _, read, rfl | unit⟩ := @bracketsSpelled _ "3pxpx".toList .bare spells
    · exact read (by decide)
    · obtain rfl : numeral = "3px".toList := (@List.append_cancel_right _ "3px".toList _ _ unit).symm
      exact read (by decide)
  refine ⟨ended, spelled, scripts, some, ?_, twice, (widthResolved _).2.1 twice⟩
  obtain ⟨x, read⟩ := Option.isSome_iff_exists.mp some
  rw [read, (widthResolved _).1 _ _ x ended spelled (by decide) (scripts.trans read)]

end UtilityLayout.Utility

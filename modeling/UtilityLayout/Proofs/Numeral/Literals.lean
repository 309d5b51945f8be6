import UtilityLayout.Proofs.Binary64.Decimals

/-! Numbers of class names, told without the reader. A text says a number exactly if it is spelled as one, up to one
line feed at its end, and the number is the one that the decimal so spelled is rounded to. -/
namespace UtilityLayout.Numeral
open Decimal (Rounded)

inductive Ended : List Char → List Char → Prop where
  | bare {body} : Ended body body
  | newline {body} : Ended (body ++ ['\n']) body

theorem droppedEnded (text : List Char) : Ended text (dropFinalNewline text) := by
  rcases newlineDropped text with same | ended
  · rw [← same]
    exact .bare
  · generalize dropFinalNewline text = body at ended ⊢
    rw [ended]
    exact .newline

theorem endedDropped {text body : List Char} (ended : Ended text body) (clean : body.getLast? ≠ some '\n') :
    dropFinalNewline text = body := by
  cases ended with
  | bare => exact newlineKept clean
  | newline => rw [dropFinalNewline, if_pos List.getLast?_concat, List.dropLast_concat]

theorem oneLineEnds {body : List Char} (oneLine : '\n' ∉ body) : body.getLast? ≠ some '\n' :=
  fun last => oneLine (List.mem_of_getLast? last)

theorem spelledOneLine {body : List Char} {decimal : Decimal} (spelled : Spelled classStyle body decimal) :
    '\n' ∉ body := by
  intro inside
  have blank := numeralNotBlank spelled '\n' inside
  revert blank
  decide

theorem numberEnded {text body : List Char} {decimal : Decimal} (ended : Ended text body)
    (spelled : Spelled classStyle body decimal) : number? text = some decimal.toBinary64 := by
  rw [number?, endedDropped ended (oneLineEnds (spelledOneLine spelled)), (readSpelled classSeparate).mpr spelled]
  rfl

theorem endedOfNumber {text : List Char} (read : number? text ≠ none) :
    ∃ body decimal, Ended text body ∧ Spelled classStyle body decimal := by
  obtain ⟨x, found⟩ := Option.ne_none_iff_exists'.mp read
  obtain ⟨decimal, reads, _⟩ := Option.map_eq_some_iff.mp found
  exact ⟨_, decimal, droppedEnded text, (readSpelled classSeparate).mp reads⟩

theorem numberRounded {decimal : Decimal} {x : Binary64} : decimal.toBinary64 = x ↔ Rounded decimal x := by
  constructor
  · rintro rfl
    exact decimal.toBinary64Rounded
  · intro rounded
    exact Decimal.roundedUnique decimal.toBinary64Rounded rounded

/- A number is read exactly if a text is a decimal literal, up to one line feed at its end. It is a nearest number, or
an infinity from half a step below the limit on, and zero up to half the least number, always of the sign that is
written. No text with other characters is read. -/
theorem literalRead (text : List Char) :
    (number? text ≠ none ↔ ∃ body decimal, Ended text body ∧ Spelled classStyle body decimal) ∧
    (∀ body decimal, Ended text body → Spelled classStyle body decimal →
      (∀ x, number? text = some x ↔ Rounded decimal x) ∧
      (2 * |decimal.value| * unitsPerOne ≤ 1 → number? text = some (.finite decimal.negative .zero))) ∧
    (number? text ≠ none → ∃ body, Ended text body ∧
      ∀ c ∈ body, Text.isDigit c = true ∨ c ∈ ['+', '-', '.', 'e']) := by
  refine ⟨⟨endedOfNumber, ?_⟩, ?_, ?_⟩
  · rintro ⟨body, decimal, ended, spelled⟩
    rw [numberEnded ended spelled]
    exact Option.some_ne_none _
  · intro body decimal ended spelled
    rw [numberEnded ended spelled]
    refine ⟨fun x => ?_, fun few => ?_⟩
    · rw [Option.some.injEq, numberRounded]
    · rw [Option.some.injEq, numberRounded]
      exact Decimal.roundedZero few
  · intro read
    obtain ⟨body, decimal, ended, spelled⟩ := endedOfNumber read
    refine ⟨body, ended, fun c inside => ?_⟩
    rcases (spelledCharacters spelled).2 c inside with digit | mark | other
    · exact .inl digit
    · cases eq_of_beq mark
      exact .inr (by simp)
    · refine .inr ?_
      simp only [List.mem_cons] at other ⊢
      tauto

theorem literalReadScripts :
    Ended "-٣.5e1\n".toList "-٣.5e1".toList ∧ Spelled classStyle "-٣.5e1".toList ⟨true, 35, 0⟩ ∧
      ∃ m : Magnitude, m.units = 35 * unitsPerOne ∧ number? "-٣.5e1\n".toList = some (.finite true m) ∧
        Rounded ⟨true, 35, 0⟩ (.finite true m) := by
  have ended : Ended "-٣.5e1\n".toList "-٣.5e1".toList := @Ended.newline "-٣.5e1".toList
  have spelled : Spelled classStyle "-٣.5e1".toList ⟨true, 35, 0⟩ := (readSpelled classSeparate).mp (by decide)
  obtain ⟨m, made, units⟩ := @Binary64.ofQuotientWhole true 35 (by decide)
  have read : number? "-٣.5e1\n".toList = some (.finite true m) := by
    have whole : Decimal.numerator ⟨true, 35, 0⟩ = 35 := rfl
    have one : Decimal.denominator ⟨true, 35, 0⟩ = 1 := rfl
    rw [numberEnded ended spelled, Decimal.toBinary64Quotient, whole, one, made]
  exact ⟨ended, spelled, m, units, read, (((literalRead _).2.1 _ _ ended spelled).1 _).mp read⟩

end UtilityLayout.Numeral

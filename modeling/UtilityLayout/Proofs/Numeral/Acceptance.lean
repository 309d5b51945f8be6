import UtilityLayout.Numeral.Word
import UtilityLayout.Proofs.Numeral.Spelling

/-! Numerals of class names. The liberal reading, which also knows words for numbers and white space around, reads
every one of them too, and reads the same number. -/
namespace UtilityLayout

namespace Text

theorem digitRange {c : Char} (digit : isDigit c = true) :
    ∃ start ∈ digitZeros, start ≤ c.toNat ∧ c.toNat < start + 10 := by
  obtain ⟨value, found⟩ := Option.isSome_iff_exists.mp digit
  obtain ⟨start, zero, _⟩ := Option.map_eq_some_iff.mp found
  have range := List.find?_some zero
  simp only [Bool.and_eq_true, decide_eq_true_eq] at range
  exact ⟨start, List.mem_of_find?_eq_some zero, range⟩

theorem digitLacks {holds : Char → Bool}
    (table : ∀ start ∈ digitZeros, ∀ digit < 10, holds (Char.ofNat (start + digit)) = false) {c : Char}
    (digit : isDigit c = true) : holds c = false := by
  obtain ⟨start, zero, low, high⟩ := digitRange digit
  have same := table start zero (c.toNat - start) (by omega)
  rwa [Nat.add_sub_cancel' low, Char.ofNat_toNat] at same

theorem digitNotBlank {c : Char} (digit : isDigit c = true) : isBlank c = false :=
  digitLacks (by decide +kernel) digit

theorem trimClosed {drops : Char → Bool} {text : List Char} (some : text ≠ [])
    (clean : ∀ c ∈ text, drops c = false) {after : List Char} (dropped : ∀ c ∈ after, drops c = true) :
    trimBy drops (text ++ after) = text := by
  have keep {kept : List Char} (some : kept ≠ []) (clean : ∀ c ∈ kept, drops c = false) (rest : List Char) :
      (kept ++ rest).dropWhile drops = kept ++ rest := by
    obtain ⟨c, more, rfl⟩ := List.exists_cons_of_ne_nil some
    simp [clean c List.mem_cons_self]
  have back := keep (by simpa using some) (fun c inside => clean c (List.mem_reverse.mp inside)) []
  rw [List.append_nil] at back
  rw [trimBy, keep some clean, List.reverse_append, List.dropWhile_append_of_pos, back, List.reverse_reverse]
  intro c inside
  exact dropped c (List.mem_reverse.mp inside)

end Text

namespace Numeral

def liberalStyle : NumeralStyle :=
  ⟨Text.isDigit, isEitherE⟩

theorem classSeparate : Separate classStyle where
  plus := by decide
  minus := by decide
  point := by decide
  marks mark marks := by
    cases eq_of_beq marks
    decide

theorem liberalSeparate : Separate liberalStyle where
  plus := by decide
  minus := by decide
  point := by decide
  marks mark marks := by
    rcases Bool.or_eq_true _ _ ▸ marks with small | capital
    · cases eq_of_beq small
      decide
    · cases eq_of_beq capital
      decide

def IsNumeral (text : List Char) : Prop :=
  ∃ decimal, Spelled classStyle text decimal

theorem numeralRead (text : List Char) : (read? classStyle text).isSome = true ↔ IsNumeral text := by
  rw [Option.isSome_iff_exists]
  exact exists_congr fun decimal => readSpelled classSeparate

instance (text : List Char) : Decidable (IsNumeral text) :=
  decidable_of_iff _ (numeralRead text)

theorem numberIsSome (text : List Char) :
    (number? text).isSome = true ↔ IsNumeral (dropFinalNewline text) := by
  rw [number?, Option.isSome_map, numeralRead]

theorem newlineDropped (text : List Char) :
    text = dropFinalNewline text ∨ text = dropFinalNewline text ++ ['\n'] := by
  unfold dropFinalNewline
  split
  · rename_i last
    obtain ⟨before, rfl⟩ := List.getLast?_eq_some_iff.mp last
    exact .inr (by rw [List.dropLast_concat])
  · exact .inl rfl

theorem newlineKept {text : List Char} (last : text.getLast? ≠ some '\n') : dropFinalNewline text = text :=
  if_neg last

section Characters
variable {style : NumeralStyle}

theorem signCharacters {negative : Bool} {sign : List Char} (signed : Sign negative sign) :
    ∀ c ∈ sign, c ∈ ['+', '-', '.'] := by
  cases signed <;> simp

theorem significandCharacters {digits places body : List Char}
    (significand : Significand style digits places body) :
    ∀ c ∈ body, style.isDigit c = true ∨ c ∈ ['+', '-', '.'] := by
  intro c inside
  cases significand with
  | whole some all => exact .inl (all c inside)
  | pointed some before after =>
    rcases List.mem_append.mp inside with inside | inside
    · exact .inl (before c inside)
    · rcases List.mem_cons.mp inside with rfl | inside
      · exact .inr (by simp)
      · exact .inl (after c inside)

theorem exponentCharacters {exponent : Int} {tail : List Char} (scaled : Exponent style exponent tail) :
    ∀ c ∈ tail, style.isDigit c = true ∨ style.isExponentMark c = true ∨ c ∈ ['+', '-', '.'] := by
  intro c inside
  cases scaled with
  | none => contradiction
  | marked marks signed some all =>
    rcases List.mem_cons.mp inside with rfl | inside
    · exact .inr (.inl marks)
    · rcases List.mem_append.mp inside with inside | inside
      · exact .inr (.inr (signCharacters signed c inside))
      · exact .inl (all c inside)

theorem spelledCharacters {text : List Char} {decimal : Decimal} (spelled : Spelled style text decimal) :
    text ≠ [] ∧ ∀ c ∈ text, style.isDigit c = true ∨ style.isExponentMark c = true ∨ c ∈ ['+', '-', '.'] := by
  cases spelled with
  | @parts negative sign digits places body exponent tail signed significand scaled =>
    constructor
    · obtain ⟨c, rest, same, _⟩ := significandStarts significand tail
      simp [same]
    · intro c inside
      rcases List.mem_append.mp inside with inside | inside
      · exact .inr (.inr (signCharacters signed c inside))
      · rcases List.mem_append.mp inside with inside | inside
        · exact (significandCharacters significand c inside).imp_right .inr
        · exact exponentCharacters scaled c inside

end Characters

theorem numeralNotBlank {text : List Char} {decimal : Decimal} (spelled : Spelled classStyle text decimal) :
    ∀ c ∈ text, Text.isWhiteSpace c = false := by
  intro c inside
  have blank : Text.isBlank c = false := by
    rcases (spelledCharacters spelled).2 c inside with digit | mark | other
    · exact Text.digitNotBlank digit
    · cases eq_of_beq mark
      decide
    · simp only [List.mem_cons, List.not_mem_nil, or_false] at other
      rcases other with rfl | rfl | rfl <;> rfl
  rw [Text.isWhiteSpace, blank, Bool.false_and]

theorem numeralTrimmed {text : List Char} {decimal : Decimal}
    (spelled : Spelled classStyle (dropFinalNewline text) decimal) :
    Text.trimBy Text.isWhiteSpace text = dropFinalNewline text := by
  have clean := numeralNotBlank spelled
  have some := (spelledCharacters spelled).1
  rcases newlineDropped text with same | ended
  · have trimmed := Text.trimClosed some clean (fun c (inside : c ∈ []) => by contradiction)
    rw [List.append_nil, ← same] at trimmed
    exact trimmed.trans same
  · have trimmed := @Text.trimClosed _ _ some clean ['\n'] (List.forall_mem_singleton.mpr rfl)
    rwa [← ended] at trimmed

theorem spelledLiberal {text : List Char} {decimal : Decimal} (spelled : Spelled classStyle text decimal) :
    Spelled liberalStyle text decimal := by
  have scaledLiberal {exponent : Int} {tail : List Char} (scaled : Exponent classStyle exponent tail) :
      Exponent liberalStyle exponent tail := by
    cases scaled with
    | none => exact .none
    | marked marks signed some all =>
      refine .marked ?_ signed some all
      exact Bool.or_eq_true _ _ ▸ .inl marks
  cases spelled with
  | parts signed significand scaled =>
    refine .parts signed ?_ (scaledLiberal scaled)
    cases significand with
    | whole some all => exact .whole some all
    | pointed some before after => exact .pointed some before after

theorem sameWordStart {c first : Char} (differs : c.toLower ≠ first) (rest : List Char) {word : String}
    {more : List Char} (letters : word.toList = first :: more) : sameWord (c :: rest) word = false := by
  rw [sameWord, letters, List.map_cons, beq_eq_false_iff_ne]
  intro same
  exact differs (List.cons.inj same).1

theorem spelledNoWord {text : List Char} {decimal : Decimal} (spelled : Spelled classStyle text decimal) :
    word? text = none := by
  cases spelled with
  | @parts negative sign digits places body exponent tail signed significand scaled =>
    obtain ⟨c, rest, same, start⟩ := significandStarts significand tail
    have unsigned : ∀ d ∈ (body ++ tail).head?, d ≠ '+' ∧ d ≠ '-' := by
      intro d head
      rw [same] at head
      cases head
      rcases start with digit | rfl
      · exact ⟨(digitUnsigned classSeparate digit).1, (digitUnsigned classSeparate digit).2.1⟩
      · decide
    have letters : (c.toLower == 'i' || c.toLower == 'n') = false := by
      rcases start with digit | rfl
      · exact @Text.digitLacks (fun c => c.toLower == 'i' || c.toLower == 'n') (by decide +kernel) c digit
      · decide
    rw [Bool.or_eq_false_iff, beq_eq_false_iff_ne, beq_eq_false_iff_ne] at letters
    rw [word?, takeSignSigned signed unsigned, same]
    simp only [@sameWordStart c 'i' letters.1 rest "inf" _ rfl, @sameWordStart c 'i' letters.1 rest "infinity" _ rfl,
      @sameWordStart c 'n' letters.2 rest "nan" _ rfl, Bool.or_self, Bool.false_eq_true, if_false]

theorem liberalOfSpelled {text : List Char} {decimal : Decimal}
    (spelled : Spelled classStyle (dropFinalNewline text) decimal) : liberal? text = some decimal.toBinary64 := by
  have read := (readSpelled liberalSeparate).mpr (spelledLiberal spelled)
  rw [liberal?, numeralTrimmed spelled, bare?, spelledNoWord spelled]
  exact congrArg (Option.map Decimal.toBinary64) read

theorem liberalOfNumber {text : List Char} {x : Binary64} (read : number? text = some x) :
    liberal? text = some x := by
  obtain ⟨decimal, reads, rfl⟩ := Option.map_eq_some_iff.mp read
  exact liberalOfSpelled ((readSpelled classSeparate).mp reads)

end Numeral

end UtilityLayout

import UtilityLayout.Text.Blank

/-! The words of a text. Between a word and the next there is white space, and a word has none; so a text can be told
word by word in one way only. -/
namespace UtilityLayout.Text

def AllBlank (text : List Char) : Prop :=
  ∀ c ∈ text, isBlank c = true

def NoBlank (text : List Char) : Prop :=
  ∀ c ∈ text, isBlank c = false

inductive Spaced : List Char → List (List Char) → Prop where
  | done {gap} (blank : AllBlank gap) : Spaced gap []
  | word {gap word rest words} (blank : AllBlank gap) (some : word ≠ []) (clean : NoBlank word)
      (ends : ∀ c ∈ rest.head?, isBlank c = true) (next : Spaced rest words) :
      Spaced (gap ++ word ++ rest) (word :: words)

theorem splitAppend {α : Type} {separates : α → Bool} {c : α} (h : separates c = true)
    (before after : List α) :
    split separates (before ++ c :: after) = split separates before ++ split separates after := by
  induction before with
  | nil => exact splitAtSeparator h after
  | cons d rest ih =>
    cases same : separates d with
    | true => rw [List.cons_append, splitAtSeparator same, splitAtSeparator same, ih, List.cons_append]
    | false =>
      obtain ⟨piece, pieces, short, long⟩ := splitAtOther same rest
      obtain ⟨first, others, joined, whole⟩ := splitAtOther same (rest ++ c :: after)
      rw [ih, short, List.cons_append] at joined
      obtain ⟨rfl, rfl⟩ := List.cons.inj joined
      rw [List.cons_append, whole, long, List.cons_append]

theorem wordsAppend {c : Char} (blank : isBlank c = true) (before after : List Char) :
    words (before ++ c :: after) = words before ++ words after := by
  rw [words, splitAppend blank, List.filter_append]
  rfl

theorem wordsGap {gap : List Char} (blank : AllBlank gap) (text : List Char) :
    words (gap ++ text) = words text := by
  induction gap with
  | nil => rfl
  | cons c rest ih =>
    have first := wordsAppend (blank c List.mem_cons_self) [] (rest ++ text)
    have tail := ih fun d inside => blank d (List.mem_cons_of_mem _ inside)
    exact first.trans tail

theorem wordsSingle {word : List Char} (some : word ≠ []) (clean : NoBlank word) :
    words word = [word] := by
  rw [words, splitClean clean]
  simp [some]

theorem wordsNext {word rest : List Char} (some : word ≠ []) (clean : NoBlank word)
    (ends : ∀ c ∈ rest.head?, isBlank c = true) : words (word ++ rest) = word :: words rest := by
  cases rest with
  | nil => rw [List.append_nil, wordsSingle some clean]; rfl
  | cons c rest =>
    have blank : isBlank c = true := ends c rfl
    have gap : words (c :: rest) = words rest := @wordsGap [c] (by simpa [AllBlank]) rest
    rw [wordsAppend blank, wordsSingle some clean, gap]
    rfl

theorem wordsOfSpaced {text : List Char} {found : List (List Char)} (spaced : Spaced text found) :
    found = words text := by
  induction spaced with
  | done blank =>
    have none := wordsGap blank []
    rw [List.append_nil] at none
    exact none.symm
  | word blank some clean ends _ ih => rw [List.append_assoc, wordsGap blank, wordsNext some clean ends, ih]

theorem spacedAfterGap {c : Char} {text : List Char} {found : List (List Char)}
    (blank : isBlank c = true) (spaced : Spaced text found) : Spaced (c :: text) found := by
  have longer {gap : List Char} (all : AllBlank gap) : AllBlank (c :: gap) := by
    intro d inside
    rcases List.mem_cons.mp inside with rfl | inside
    · exact blank
    · exact all d inside
  cases spaced with
  | done all => exact .done (longer all)
  | word all some clean ends next => exact .word (longer all) some clean ends next

theorem noBlankOfAny {text : List Char} (none : text.any isBlank = false) : NoBlank text :=
  fun c inside => Bool.eq_false_iff.mpr (List.any_eq_false.mp none c inside)

theorem noBlankCons {c : Char} {word : List Char} (letter : isBlank c = false) (clean : NoBlank word) :
    NoBlank (c :: word) := by
  intro d inside
  rcases List.mem_cons.mp inside with rfl | inside
  · exact letter
  · exact clean d inside

theorem spacedAfterLetter {c : Char} {text : List Char} {found : List (List Char)}
    (letter : isBlank c = false) (spaced : Spaced text found) :
    ∃ others, Spaced (c :: text) others := by
  have alone : NoBlank [c] := noBlankCons letter (by simp [NoBlank])
  have nothing : AllBlank [] := by simp [AllBlank]
  have starts {gap : List Char} (blank : AllBlank gap) (rest : List Char) (gapped : gap ≠ []) :
      ∀ d ∈ (gap ++ rest).head?, isBlank d = true := by
    cases gap with
    | nil => contradiction
    | cons first more =>
      intro d head
      cases head
      exact blank _ List.mem_cons_self
  cases spaced with
  | done blank =>
    refine ⟨[[c]], @Spaced.word [] [c] text [] nothing (by simp) alone ?_ (.done blank)⟩
    intro d head
    exact blank d (List.mem_of_mem_head? head)
  | @word gap word rest words blank some clean ends next =>
    by_cases gapped : gap = []
    · subst gapped
      exact ⟨_, @Spaced.word [] (c :: word) rest words nothing (by simp) (noBlankCons letter clean) ends next⟩
    · have head := starts blank (word ++ rest) gapped
      rw [← List.append_assoc] at head
      exact ⟨_, @Spaced.word [] [c] _ _ nothing (by simp) alone head (.word blank some clean ends next)⟩

theorem spacedSome (text : List Char) : ∃ found, Spaced text found := by
  induction text with
  | nil => exact ⟨[], .done (by simp [AllBlank])⟩
  | cons c rest ih =>
    obtain ⟨found, spaced⟩ := ih
    cases blank : isBlank c with
    | true => exact ⟨found, spacedAfterGap blank spaced⟩
    | false => exact spacedAfterLetter blank spaced

theorem spacedWords (text : List Char) : Spaced text (words text) := by
  obtain ⟨found, spaced⟩ := spacedSome text
  rw [← wordsOfSpaced spaced]
  exact spaced

end UtilityLayout.Text

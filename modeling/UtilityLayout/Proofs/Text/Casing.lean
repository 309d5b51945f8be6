import UtilityLayout.Proofs.Text.Lowering
import UtilityLayout.Proofs.Text.Words

/-! Lower case and white space. What is in lower case stays as it is, and white space is neither made nor lost; so the
words of a text in lower case are its words in lower case, each by itself. -/
namespace UtilityLayout.Text

def Settled (c : Char) : Prop :=
  c ≠ 'Σ' ∧ lowerChar c = [c]

instance (c : Char) : Decidable (Settled c) := by
  unfold Settled; infer_instance

def asciiCapitals : CaseRun := ⟨0x41, 0x5a, 1, 32⟩

theorem toLowerKept {c : Char} (ascii : c.toNat < 0x80) (small : asciiCapitals.contains c = false) : c.toLower = c := by
  have all : ∀ code < 0x80, asciiCapitals.contains (Char.ofNat code) = false →
      (Char.ofNat code).toLower = Char.ofNat code := by
    decide +kernel
  have same := all c.toNat ascii
  rw [Char.ofNat_toNat] at same
  exact same small

theorem asciiSettled {c : Char} (ascii : c.toNat < 0x80) : Settled c.toLower := by
  have all : ∀ code < 0x80, Settled (Char.ofNat code).toLower := by decide +kernel
  have same := all c.toNat ascii
  rwa [Char.ofNat_toNat] at same

namespace CaseRun

def lowestImage (run : CaseRun) : Nat :=
  (run.first + run.shift).toNat

def highestImage (run : CaseRun) : Nat :=
  (run.last + run.shift).toNat

def sparse (run : CaseRun) : Bool :=
  Nat.beq run.step 2 || Nat.beq run.first run.last

def misses (low high : Nat) (sparse : Bool) (run : CaseRun) : Bool :=
  Nat.blt high run.first || Nat.blt run.last low ||
    (sparse && Nat.beq run.step 2 && Nat.beq ((low + run.first) % 2) 1)

structure Proper (run : CaseRun) : Prop where
  positive : 0 ≤ (run.first : Int) + run.shift
  below : run.lowestImage < 0xd800 ∧ run.highestImage < 0xd800 ∨
    0xdfff < run.lowestImage ∧ run.highestImage < 0x110000
  dotless : run.highestImage < 0x130 ∨ 0x130 < run.lowestImage

instance (run : CaseRun) : Decidable run.Proper :=
  decidable_of_iff (_ ∧ _ ∧ _) ⟨fun ⟨positive, below, dotless⟩ => ⟨positive, below, dotless⟩,
    fun proper => ⟨proper.positive, proper.below, proper.dotless⟩⟩

theorem allProper : ∀ run ∈ lowerRuns, run.Proper := by
  decide +kernel

theorem allMiss :
    (lowerRuns.all fun run => lowerRuns.all (misses run.lowestImage run.highestImage run.sparse)) = true := by
  decide +kernel

variable {run : CaseRun} {c : Char}

theorem missedCases {low high : Nat} {sparse : Bool} (missed : misses low high sparse run = true) :
    high < run.first ∨ run.last < low ∨ sparse = true ∧ run.step = 2 ∧ (low + run.first) % 2 = 1 := by
  simpa only [misses, Bool.or_eq_true, Bool.and_eq_true, Nat.blt_eq, Nat.beq_eq, or_assoc, and_assoc] using missed

theorem imageCode (proper : run.Proper) (inside : run.contains c = true) :
    (run.image c).toNat = (c.toNat + run.shift).toNat := by
  obtain ⟨positive, below, -⟩ := proper
  simp only [contains, Bool.and_eq_true, decide_eq_true_eq] at inside
  simp only [lowestImage, highestImage] at below
  have valid : (c.toNat + run.shift).toNat.isValidChar := by
    simp only [Nat.isValidChar]
    omega
  rw [image, Char.ofNat, dif_pos valid]
  rfl

theorem imageDotless (proper : run.Proper) (inside : run.contains c = true) : run.image c ≠ '\u0130' := by
  intro same
  have code := imageCode proper inside
  rw [same] at code
  have dotless := proper.dotless
  simp only [contains, Bool.and_eq_true, decide_eq_true_eq] at inside
  simp only [lowestImage, highestImage] at dotless
  have value : '\u0130'.toNat = 0x130 := rfl
  omega

theorem imageMissed (proper : run.Proper) (inside : run.contains c = true) {other : CaseRun}
    (missed : misses run.lowestImage run.highestImage run.sparse other = true) :
    other.contains (run.image c) = false := by
  rw [Bool.eq_false_iff]
  intro within
  have same := imageCode proper inside
  have positive := proper.positive
  simp only [contains, Bool.and_eq_true, decide_eq_true_eq] at inside within
  rw [same] at within
  rcases missedCases missed with above | below | ⟨few, step, odd⟩
  · simp only [highestImage] at above
    omega
  · simp only [lowestImage] at below
    omega
  · rw [step] at within
    simp only [lowestImage] at odd
    simp only [sparse, Bool.or_eq_true, Nat.beq_eq] at few
    rcases few with two | single
    · rw [two] at inside
      omega
    · omega

end CaseRun

theorem imageSettled {run : CaseRun} (known : run ∈ lowerRuns) {c : Char} (inside : run.contains c = true) :
    Settled (run.image c) := by
  have proper := CaseRun.allProper run known
  have alone : ∀ other ∈ lowerRuns, other.contains (run.image c) = false := by
    intro other listed
    have missed := List.all_eq_true.mp (List.all_eq_true.mp CaseRun.allMiss run known) other listed
    exact CaseRun.imageMissed proper inside missed
  refine ⟨?_, ?_⟩
  · intro sigma
    have listed := alone ⟨0x3a3, 0x3ab, 1, 32⟩ (by decide)
    rw [sigma] at listed
    contradiction
  · have none : lowerRuns.find? (·.contains (run.image c)) = none :=
      List.find?_eq_none.mpr fun other listed => Bool.eq_false_iff.mp (alone other listed)
    by_cases ascii : (run.image c).toNat < 0x80
    · rw [lowerChar, if_pos ascii, toLowerKept ascii (alone asciiCapitals (by decide))]
    · rw [lowerChar, if_neg ascii, if_neg (CaseRun.imageDotless proper inside), none]

theorem lowerCharSettled (c : Char) : ∀ d ∈ lowerChar c, Settled d := by
  unfold lowerChar
  split
  · rename_i ascii
    exact List.forall_mem_singleton.mpr (asciiSettled ascii)
  · rename_i beyond
    split
    · exact List.forall_mem_cons.mpr ⟨by decide +kernel, List.forall_mem_singleton.mpr (by decide +kernel)⟩
    · rename_i plain
      split
      · rename_i run found
        have inside := List.find?_some found
        exact List.forall_mem_singleton.mpr (imageSettled (List.mem_of_find?_eq_some found) inside)
      · rename_i none
        refine List.forall_mem_singleton.mpr ⟨?_, ?_⟩
        · rintro rfl
          revert none
          decide
        · rw [lowerChar, if_neg beyond, if_neg plain, none]

theorem lowerSettled (text : List Char) : ∀ d ∈ lower text, Settled d := by
  have all (afterCased : Bool) : ∀ d ∈ lowerAfter afterCased text, Settled d := by
    induction text generalizing afterCased with
    | nil => exact fun d inside => nomatch inside
    | cons c rest ih =>
      rw [lowerAfter]
      refine List.forall_mem_append.mpr ⟨?_, ih _⟩
      split
      · split <;> exact List.forall_mem_singleton.mpr (by decide +kernel)
      · exact lowerCharSettled c
  exact all false

theorem lowerTwice (text : List Char) : lower (lower text) = lower text :=
  lowerKept (lowerSettled text)

def blankRanges : List CharRange := [
  ⟨0x09, 0x0d⟩, ⟨0x1c, 0x20⟩, ⟨0x85, 0x85⟩, ⟨0xa0, 0xa0⟩, ⟨0x1680, 0x1680⟩, ⟨0x2000, 0x200a⟩, ⟨0x2028, 0x2029⟩,
  ⟨0x202f, 0x202f⟩, ⟨0x205f, 0x205f⟩, ⟨0x3000, 0x3000⟩]

theorem blankInRanges {c : Char} (blank : isBlank c = true) :
    ∃ range ∈ blankRanges, range.first ≤ c.toNat ∧ c.toNat ≤ range.last := by
  simp only [isBlank, Bool.or_eq_true, Bool.and_eq_true, decide_eq_true_eq, beq_iff_eq] at blank
  simp only [blankRanges, List.mem_cons, exists_eq_or_imp, exists_eq_left, List.not_mem_nil, or_false]
  omega

theorem blankParts {c : Char} (blank : isBlank c = true) : Parts c := by
  have all : ∀ range ∈ blankRanges, ∀ place < range.last + 1 - range.first,
      let d := Char.ofNat (range.first + place)
      isCased d = false ∧ isCaseIgnorable d = false ∧ Settled d := by
    decide +kernel
  obtain ⟨range, known, low, high⟩ := blankInRanges blank
  have same := all range known (c.toNat - range.first) (by omega)
  rw [Nat.add_sub_cancel' low, Char.ofNat_toNat] at same
  obtain ⟨uncased, seen, noSigma, kept⟩ := same
  exact ⟨uncased, seen, noSigma, kept⟩

theorem lowerClean {text : List Char} (clean : NoBlank text) : NoBlank (lower text) := by
  have all (afterCased : Bool) : NoBlank (lowerAfter afterCased text) := by
    induction text generalizing afterCased with
    | nil => exact clean
    | cons c rest ih =>
      obtain ⟨image, next, same, _, imageClean⟩ := lowerCons afterCased c rest
      obtain ⟨letter, others⟩ := List.forall_mem_cons.mp clean
      rw [same]
      exact List.forall_mem_append.mpr ⟨imageClean letter, ih others next⟩
  exact all false

theorem lowerAfterBlank {c : Char} (blank : isBlank c = true) (rest : List Char) :
    lower (c :: rest) = c :: lower rest :=
  lowerParted (blankParts blank) [] rest

theorem lowerAfterGap {gap : List Char} (blank : AllBlank gap) (text : List Char) :
    lower (gap ++ text) = gap ++ lower text := by
  induction gap with
  | nil => rfl
  | cons c rest ih =>
    obtain ⟨first, others⟩ := List.forall_mem_cons.mp blank
    rw [List.cons_append, lowerAfterBlank first, ih others, List.cons_append]

theorem lowerBeforeBlank {word rest : List Char} (ends : ∀ c ∈ rest.head?, isBlank c = true) :
    lower (word ++ rest) = lower word ++ lower rest := by
  cases rest with
  | nil => rw [List.append_nil]; exact (List.append_nil _).symm
  | cons c more =>
    have blank : isBlank c = true := ends c rfl
    rw [lowerParted (blankParts blank), lowerAfterBlank blank]

theorem lowerSpaced {text : List Char} {found : List (List Char)} (spaced : Spaced text found) :
    Spaced (lower text) (found.map lower) := by
  induction spaced with
  | @done gap blank =>
    have kept := lowerAfterGap blank []
    rw [List.append_nil] at kept
    rw [kept]
    exact .done (by simpa [lower, lowerAfter] using blank)
  | @word gap word rest words blank some clean ends next ih =>
    rw [List.append_assoc, lowerAfterGap blank, lowerBeforeBlank ends, ← List.append_assoc]
    refine .word blank (lowerSome some) (lowerClean clean) ?_ ih
    cases rest with
    | nil => exact ends
    | cons c more =>
      rw [lowerAfterBlank (ends c rfl)]
      exact ends

theorem wordsLower (text : List Char) : words (lower text) = (words text).map lower :=
  (wordsOfSpaced (lowerSpaced (spacedWords text))).symm

def respaced (lead : List Char) (parts : List (List Char × List Char)) : List Char :=
  lead ++ (parts.map fun part => part.1 ++ part.2).flatten

instance (text : List Char) : Decidable (AllBlank text) :=
  decidable_of_iff (text.all isBlank = true) List.all_eq_true

structure Gaps (lead : List Char) (parts : List (List Char × List Char)) : Prop where
  before : AllBlank lead
  after : ∀ part ∈ parts, AllBlank part.2
  between : ∀ part ∈ parts.dropLast, part.2 ≠ []

theorem respacedSpaced {lead : List Char} {parts : List (List Char × List Char)} (gaps : Gaps lead parts)
    (words : ∀ part ∈ parts, part.1 ≠ [] ∧ NoBlank part.1) : Spaced (respaced lead parts) (parts.map Prod.fst) := by
  induction parts generalizing lead with
  | nil =>
    rw [respaced, List.map_nil, List.flatten_nil, List.append_nil]
    exact .done gaps.before
  | cons part rest ih =>
    obtain ⟨word, gap⟩ := part
    obtain ⟨⟨some, clean⟩, others⟩ := List.forall_mem_cons.mp words
    obtain ⟨blank, blanks⟩ := List.forall_mem_cons.mp gaps.after
    have after : Gaps gap rest := by
      refine ⟨blank, blanks, fun part inside => gaps.between part ?_⟩
      cases rest with
      | nil => contradiction
      | cons next more => exact List.mem_cons_of_mem _ inside
    have same : respaced lead ((word, gap) :: rest) = lead ++ word ++ respaced gap rest := by
      simp [respaced]
    rw [same, List.map_cons]
    refine .word gaps.before some clean ?_ (ih after others)
    -- Only the last word has no gap after it, and then nothing follows.
    cases gap with
    | cons c more =>
      intro d head
      cases head
      exact blank _ List.mem_cons_self
    | nil =>
      cases rest with
      | nil => exact fun d head => nomatch head
      | cons next more => exact absurd rfl (gaps.between _ List.mem_cons_self)

theorem respacedWords {text lead : List Char} {parts : List (List Char × List Char)}
    (same : parts.map Prod.fst = words text) (gaps : Gaps lead parts) : words (respaced lead parts) = words text := by
  have proper : ∀ part ∈ parts, part.1 ≠ [] ∧ NoBlank part.1 := by
    intro part inside
    have word : part.1 ∈ words text := same ▸ List.mem_map_of_mem inside
    exact ⟨wordsNonempty word, fun c letter => wordsClean word letter⟩
  rw [← wordsOfSpaced (respacedSpaced gaps proper), same]

end UtilityLayout.Text

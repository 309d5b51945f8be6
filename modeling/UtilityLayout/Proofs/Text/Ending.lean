import UtilityLayout.Text.Blank
import UtilityLayout.Text.Lowercase

/-! How texts end. A trimmed text ends in no white space, and neither does its lower-case form; what is joined ends
as its last pieces do. -/
namespace UtilityLayout.Text

def EndsClean (text : List Char) : Prop :=
  ∀ c ∈ text.getLast?, isBlank c = false

theorem trimEndsClean (text : List Char) : EndsClean (trim text) := by
  intro c last
  have stopped := List.head?_dropWhile_not isBlank (text.dropWhile isBlank).reverse
  rw [trim, trimBy, List.getLast?_reverse] at last
  rw [Option.mem_def.mp last] at stopped
  simpa using stopped

theorem endKept {text : List Char} (clean : EndsClean text) : text.reverse.dropWhile isBlank = text.reverse := by
  rw [EndsClean, ← List.head?_reverse] at clean
  cases same : text.reverse with
  | nil => rfl
  | cons c rest =>
    rw [same] at clean
    exact List.dropWhile_cons_of_neg (by simp [clean c rfl])

theorem trimFront (front : List Char) {c : Char} (mark : isBlank c = false) {rest : List Char}
    (clean : EndsClean (c :: rest)) : trim (front ++ c :: rest) = front.dropWhile isBlank ++ c :: rest := by
  have dropped : (front ++ c :: rest).dropWhile isBlank = front.dropWhile isBlank ++ c :: rest := by
    induction front with
    | nil => exact List.dropWhile_cons_of_neg (by simp [mark])
    | cons d others ih =>
      cases blank : isBlank d with
      | true => rw [List.cons_append, List.dropWhile_cons_of_pos blank, List.dropWhile_cons_of_pos blank, ih]
      | false =>
        have kept : ¬isBlank d = true := by simp [blank]
        rw [List.cons_append, List.dropWhile_cons_of_neg kept, List.dropWhile_cons_of_neg kept, List.cons_append]
  have ends : EndsClean (front.dropWhile isBlank ++ c :: rest) := by
    intro d last
    refine clean d ?_
    simpa using last
  rw [trim, trimBy, dropped, endKept ends, List.reverse_reverse]

theorem suffixEndsClean {text ending : List Char} (clean : EndsClean text) (suffix : ending <:+ text) :
    EndsClean ending := by
  obtain ⟨before, rfl⟩ := suffix
  intro c last
  refine clean c ?_
  rw [Option.mem_def, List.getLast?_append, Option.mem_def.mp last]
  rfl

theorem cleanNoNewline {text : List Char} (clean : EndsClean text) : text.getLast? ≠ some '\n' := by
  intro last
  have newline : isBlank '\n' = false := clean '\n' last
  contradiction

theorem asciiLowerClean {c : Char} (ascii : c.toNat < 0x80) (clean : isBlank c = false) :
    isBlank c.toLower = false := by
  have all : ∀ code < 0x80, isBlank (Char.ofNat code) = false → isBlank (Char.ofNat code).toLower = false := by
    decide +kernel
  have same := all c.toNat ascii
  rw [Char.ofNat_toNat] at same
  exact same clean

theorem imageClean {run : CaseRun} (known : run ∈ lowerRuns) {c : Char} (inside : run.contains c = true) :
    isBlank (run.image c) = false := by
  have all : ∀ run ∈ lowerRuns, ∀ place < run.last + 1 - run.first,
      isBlank (Char.ofNat ((run.first + place : Nat) + run.shift).toNat) = false := by
    decide +kernel
  simp only [CaseRun.contains, Bool.and_eq_true, decide_eq_true_eq] at inside
  have same := all run known (c.toNat - run.first) (by omega)
  rwa [Nat.add_sub_cancel' inside.1.1] at same

theorem lowerCharClean {c : Char} (clean : isBlank c = false) : ∀ d ∈ lowerChar c, isBlank d = false := by
  unfold lowerChar
  split
  · rename_i ascii
    simpa using asciiLowerClean ascii clean
  · split
    · exact List.forall_mem_cons.mpr ⟨rfl, List.forall_mem_singleton.mpr rfl⟩
    · split
      · rename_i run found
        have inside := List.find?_some found
        simpa using imageClean (List.mem_of_find?_eq_some found) inside
      · simpa using clean

theorem lowerCharSome (c : Char) : lowerChar c ≠ [] := by
  unfold lowerChar
  split
  · simp
  · split
    · simp
    · split <;> simp

theorem lowerCons (afterCased : Bool) (c : Char) (rest : List Char) :
    ∃ image next, lowerAfter afterCased (c :: rest) = image ++ lowerAfter next rest ∧ image ≠ [] ∧
      (isBlank c = false → ∀ d ∈ image, isBlank d = false) := by
  refine ⟨_, _, rfl, ?_, ?_⟩
  · split
    · simp
    · exact lowerCharSome c
  · intro clean
    split
    · split <;> exact List.forall_mem_singleton.mpr rfl
    · exact lowerCharClean clean

theorem lowerEndsClean {text : List Char} (clean : EndsClean text) : EndsClean (lower text) := by
  have all (afterCased : Bool) : EndsClean (lowerAfter afterCased text) := by
    induction text generalizing afterCased with
    | nil => exact clean
    | cons c rest ih =>
      obtain ⟨image, next, same, _, imageClean⟩ := lowerCons afterCased c rest
      rw [same]
      intro d last
      cases rest with
      | nil =>
        have letter : isBlank c = false := clean c rfl
        rw [lowerAfter, List.append_nil] at last
        exact imageClean letter d (List.mem_of_getLast? last)
      | cons following more =>
        obtain ⟨others, _, tail, some, _⟩ := lowerCons next following more
        have nonempty : lowerAfter next (following :: more) ≠ [] := by
          rw [tail]
          simp [some]
        rw [List.getLast?_append, List.getLast?_eq_some_getLast nonempty, Option.some_or] at last
        refine ih (suffixEndsClean clean (List.suffix_cons c _)) next d ?_
        rwa [List.getLast?_eq_some_getLast nonempty]
  exact all false

theorem joinSuffix (separator : List Char) (piece : List Char) (pieces : List (List Char)) :
    join separator pieces <:+ join separator (piece :: pieces) := by
  cases pieces with
  | nil => exact List.nil_suffix
  | cons next others => exact List.suffix_append _ _

theorem joinDropSuffix (separator : List Char) (pieces : List (List Char)) (dropped : Nat) :
    join separator (pieces.drop dropped) <:+ join separator pieces := by
  induction pieces generalizing dropped with
  | nil => simp
  | cons piece rest ih =>
    cases dropped with
    | zero => exact List.suffix_rfl
    | succ fewer => exact (ih fewer).trans (joinSuffix separator piece rest)

theorem joinLastSuffix (separator : List Char) {pieces : List (List Char)} {last : List Char}
    (found : pieces.getLast? = some last) : last <:+ join separator pieces := by
  obtain ⟨before, rfl⟩ := List.getLast?_eq_some_iff.mp found
  have dropped := joinDropSuffix separator (before ++ [last]) before.length
  rwa [List.drop_left] at dropped

end UtilityLayout.Text

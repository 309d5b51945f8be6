import UtilityLayout.Text.Basic

/-! Texts with parentheses, cut at the separators `, ` that stand outside all of them. Texts that close what they open
and have no comma outside can be joined with such separators and cut again. -/
namespace UtilityLayout.Text

def opens : CodePoint := .char '('
def closes : CodePoint := .char ')'
def comma : CodePoint := .char ','
def space : CodePoint := .char ' '

def deeper (depth : Nat) (c : CodePoint) : Nat :=
  if c = opens then depth + 1 else if c = closes then depth - 1 else depth

/- How many parentheses are open after a text; `none` where it has a comma outside all of them, or closes one that is
not open. -/
def depthAfter? (depth : Nat) : List CodePoint → Option Nat
  | [] => some depth
  | c :: rest =>
    if depth = 0 ∧ (c = comma ∨ c = closes) then none else depthAfter? (deeper depth c) rest

def cut (depth : Nat) : List CodePoint → List CodePoint × List (List CodePoint)
  | [] => ([], [])
  | c :: rest =>
    if depth = 0 ∧ c = comma then
      match rest with
      | [] => ([c], [])
      | d :: more =>
        if d = space then ([], (cut 0 more).1 :: (cut 0 more).2)
        else (c :: (cut 0 (d :: more)).1, (cut 0 (d :: more)).2)
    else (c :: (cut (deeper depth c) rest).1, (cut (deeper depth c) rest).2)

def pieces (text : List CodePoint) : List (List CodePoint) :=
  (cut 0 text).1 :: (cut 0 text).2

def Enclosed (text : List CodePoint) : Prop :=
  depthAfter? 0 text = some 0

instance (text : List CodePoint) : Decidable (Enclosed text) := by
  unfold Enclosed; infer_instance

theorem depthAppend (depth : Nat) (first second : List CodePoint) :
    depthAfter? depth (first ++ second) = (depthAfter? depth first).bind (depthAfter? · second) := by
  induction first generalizing depth with
  | nil => rfl
  | cons c rest ih =>
    simp only [List.cons_append, depthAfter?]
    split
    · rfl
    · exact ih _

theorem depthRaised {depth after : Nat} {text : List CodePoint}
    (found : depthAfter? depth text = some after) (more : Nat) :
    depthAfter? (depth + more) text = some (after + more) := by
  induction text generalizing depth with
  | nil => simp_all [depthAfter?]
  | cons c rest ih =>
    simp only [depthAfter?] at found ⊢
    split at found
    · contradiction
    · rename_i inside
      have raised : deeper (depth + more) c = deeper depth c + more := by
        unfold deeper
        split
        · omega
        · split
          · have : depth ≠ 0 := fun zero => inside ⟨zero, .inr ‹_›⟩
            omega
          · rfl
      rw [if_neg, raised]
      · exact ih found
      · intro ⟨zero, mark⟩
        exact inside ⟨by omega, mark⟩

theorem enclosedAt {text : List CodePoint} (enclosed : Enclosed text) (depth : Nat) :
    depthAfter? depth text = some depth := by
  simpa using depthRaised enclosed depth

theorem enclosedAppend {first second : List CodePoint} (one : Enclosed first) (two : Enclosed second) :
    Enclosed (first ++ second) := by
  rw [Enclosed, depthAppend, one]
  exact two

theorem enclosedPlain {text : List CodePoint}
    (plain : ∀ c ∈ text, c ≠ opens ∧ c ≠ closes ∧ c ≠ comma) : Enclosed text := by
  induction text with
  | nil => rfl
  | cons c rest ih =>
    obtain ⟨notOpen, notClose, notComma⟩ := plain c List.mem_cons_self
    have tail := ih fun d inside => plain d (List.mem_cons_of_mem _ inside)
    simpa [Enclosed, depthAfter?, deeper, notOpen, notClose, notComma] using tail

theorem joinNext (separator text next : List CodePoint) (others : List (List CodePoint)) :
    join separator (text :: next :: others) = text ++ separator ++ join separator (next :: others) := rfl

theorem depthJoin {texts : List (List CodePoint)} (enclosed : ∀ text ∈ texts, Enclosed text) (depth : Nat) :
    depthAfter? (depth + 1) (join [comma, space] texts) = some (depth + 1) := by
  induction texts with
  | nil => rfl
  | cons text rest ih =>
    have head := enclosedAt (enclosed text List.mem_cons_self) (depth + 1)
    have tail := ih fun other inside => enclosed other (List.mem_cons_of_mem _ inside)
    cases rest with
    | nil => exact head
    | cons next others =>
      have between : depthAfter? (depth + 1) [comma, space] = some (depth + 1) := by
        simp [depthAfter?, deeper, comma, space, opens, closes]
      rw [joinNext, depthAppend, depthAppend, head, Option.bind_some, between, Option.bind_some]
      exact tail

theorem enclosedCall {name : List CodePoint} {texts : List (List CodePoint)} (named : Enclosed name)
    (enclosed : ∀ text ∈ texts, Enclosed text) :
    Enclosed (name ++ [opens] ++ join [comma, space] texts ++ [closes]) := by
  rw [Enclosed, depthAppend, depthAppend, depthAppend, named, Option.bind_some]
  have opened : depthAfter? 0 [opens] = some 1 := by decide
  rw [opened, Option.bind_some, depthJoin enclosed 0, Option.bind_some]
  decide

theorem cutOther {depth : Nat} {c : CodePoint} (other : ¬(depth = 0 ∧ c = comma)) (rest : List CodePoint) :
    cut depth (c :: rest) = (c :: (cut (deeper depth c) rest).1, (cut (deeper depth c) rest).2) := by
  rw [cut.eq_def]
  exact if_neg other

theorem cutAppend {depth after : Nat} {text : List CodePoint} (found : depthAfter? depth text = some after)
    (rest : List CodePoint) :
    cut depth (text ++ rest) = (text ++ (cut after rest).1, (cut after rest).2) := by
  induction text generalizing depth with
  | nil => cases found; rfl
  | cons c others ih =>
    simp only [depthAfter?] at found
    split at found
    · contradiction
    · rename_i inside
      have within : ¬(depth = 0 ∧ c = comma) := fun ⟨zero, mark⟩ => inside ⟨zero, .inl mark⟩
      rw [List.cons_append, cutOther within, ih found]
      rfl

theorem cutSeparator (rest : List CodePoint) : cut 0 ([comma, space] ++ rest) = ([], pieces rest) := by
  simp [cut, pieces]

theorem piecesJoin {texts : List (List CodePoint)} (some : texts ≠ [])
    (enclosed : ∀ text ∈ texts, Enclosed text) : pieces (join [comma, space] texts) = texts := by
  induction texts with
  | nil => contradiction
  | cons text rest ih =>
    have head := enclosed text List.mem_cons_self
    cases rest with
    | nil =>
      have whole := cutAppend head []
      rw [List.append_nil] at whole
      rw [join, pieces, whole]
      simp [cut]
    | cons next others =>
      have tail := ih (by simp) fun other inside => enclosed other (List.mem_cons_of_mem _ inside)
      rw [joinNext, List.append_assoc, pieces, cutAppend head, cutSeparator, tail, List.append_nil]

end UtilityLayout.Text

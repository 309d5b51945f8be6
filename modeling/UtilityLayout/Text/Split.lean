/-! Cutting a text at separators, and joining it again; a text is any list here. A cut keeps empty pieces, so
nothing but the separators is lost and there is one piece more than separators. -/
namespace UtilityLayout.Text
variable {α : Type}

def split (separates : α → Bool) : List α → List (List α)
  | [] => [[]]
  | c :: rest =>
    if separates c then [] :: split separates rest
    else match split separates rest with
      | [] => [[c]]
      | piece :: pieces => (c :: piece) :: pieces

def join (separator : List α) : List (List α) → List α
  | [] => []
  | [piece] => piece
  | piece :: pieces => piece ++ separator ++ join separator pieces

theorem splitNonempty (separates : α → Bool) (text : List α) : split separates text ≠ [] := by
  cases text with
  | nil => simp [split]
  | cons c rest =>
    simp only [split]
    split
    · simp
    · split <;> simp

theorem splitAtSeparator {separates : α → Bool} {c : α} (h : separates c = true)
    (rest : List α) : split separates (c :: rest) = [] :: split separates rest := by
  simp [split, h]

theorem splitAtOther {separates : α → Bool} {c : α} (h : separates c = false)
    (rest : List α) :
    ∃ piece pieces, split separates rest = piece :: pieces ∧
      split separates (c :: rest) = (c :: piece) :: pieces := by
  cases same : split separates rest with
  | nil => exact absurd same (splitNonempty separates rest)
  | cons piece pieces => exact ⟨piece, pieces, rfl, by simp [split, h, same]⟩

theorem splitClean {separates : α → Bool} {text : List α}
    (clean : ∀ c ∈ text, separates c = false) : split separates text = [text] := by
  induction text with
  | nil => rfl
  | cons c rest ih =>
    have tail := ih fun d inside => clean d (List.mem_cons_of_mem _ inside)
    simp [split, clean c List.mem_cons_self, tail]

theorem splitPieceClean {separates : α → Bool} {text piece : List α} {c : α}
    (mem : piece ∈ split separates text) (inside : c ∈ piece) : separates c = false := by
  induction text generalizing piece with
  | nil => simp [split] at mem; subst mem; simp at inside
  | cons d rest ih =>
    cases h : separates d with
    | true =>
      rw [splitAtSeparator h, List.mem_cons] at mem
      rcases mem with rfl | mem
      · simp at inside
      · exact ih mem inside
    | false =>
      obtain ⟨first, pieces, before, after⟩ := splitAtOther h rest
      rw [after, List.mem_cons] at mem
      rcases mem with rfl | mem
      · rcases List.mem_cons.mp inside with rfl | inside
        · exact h
        · exact ih (by rw [before]; exact List.mem_cons_self) inside
      · exact ih (by rw [before]; exact List.mem_cons_of_mem _ mem) inside

theorem joinSplit (separator : Char) (text : List Char) :
    join [separator] (split (· == separator) text) = text := by
  induction text with
  | nil => rfl
  | cons c rest ih =>
    cases h : (c == separator) with
    | true =>
      have same : c = separator := by simpa using h
      rw [@splitAtSeparator Char (· == separator) c h]
      cases pieces : split (· == separator) rest with
      | nil => exact absurd pieces (splitNonempty _ rest)
      | cons piece others => rw [pieces] at ih; simp [join, ih, same]
    | false =>
      obtain ⟨piece, pieces, before, after⟩ := @splitAtOther Char (· == separator) c h rest
      rw [after]
      rw [before] at ih
      cases pieces with
      | nil => simpa [join] using ih
      | cons next others => simpa [join] using ih

end UtilityLayout.Text

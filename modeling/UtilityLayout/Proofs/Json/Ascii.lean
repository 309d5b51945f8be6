import UtilityLayout.Proofs.Json.Printing

/-! The characters of printed values. Whatever a value holds, its text is printable ASCII: numbers need no more, and in
strings everything else is escaped. -/
namespace UtilityLayout.Json

def IsShown (c : Char) : Prop :=
  0x20 ≤ c.toNat ∧ c.toNat ≤ 0x7e

instance (c : Char) : Decidable (IsShown c) := by unfold IsShown; infer_instance

def AllShown (text : List Char) : Prop :=
  ∀ c ∈ text, IsShown c

instance (text : List Char) : Decidable (AllShown text) :=
  decidable_of_iff (text.all (decide <| IsShown ·) = true) (by simp [AllShown])

theorem shownAppend {first second : List Char} (one : AllShown first) (two : AllShown second) :
    AllShown (first ++ second) :=
  List.forall_mem_append.mpr ⟨one, two⟩

theorem hexDigitShown (n : Nat) : IsShown (Text.hexDigit (n % 16)) := by
  have all : ∀ n < 16, IsShown (Text.hexDigit n) := by decide
  exact all _ (Nat.mod_lt n (by decide))

theorem hexDigitsShown (width n : Nat) : AllShown (Text.hexDigits width n) := by
  induction width generalizing n with
  | zero => exact List.forall_mem_nil _
  | succ width ih => exact shownAppend (ih (n / 16)) (List.forall_mem_singleton.mpr (hexDigitShown n))

theorem unitShown (code : Nat) : AllShown (escapeUnit code) := by
  have mark : AllShown ['\\', 'u'] := by decide
  exact shownAppend mark (hexDigitsShown 4 code)

theorem charShown (c : Char) : AllShown (escapeChar c) := by
  unfold escapeChar
  iterate 7
    split
    · decide
  split
  · rename_i shown
    simp only [Bool.and_eq_true, decide_eq_true_eq] at shown
    exact List.forall_mem_singleton.mpr shown
  · unfold escapeCode
    split
    · exact unitShown _
    · exact shownAppend (unitShown _) (unitShown _)

theorem pointShown (point : CodePoint) : AllShown (escapePoint point) := by
  cases point with
  | char c => exact charShown c
  | half offset => exact unitShown _

theorem quoteShown (t : Text) : AllShown (quote t).toList := by
  have mark : AllShown ['"'] := by decide
  have body : AllShown (t.points.flatMap escapePoint) := by
    intro c inside
    obtain ⟨point, _, written⟩ := List.mem_flatMap.mp inside
    exact pointShown point c written
  rw [quote, String.toList_ofList]
  exact shownAppend (shownAppend mark body) mark

theorem numberShown {text : List Char} (number : Grammar.IsNumber text) : AllShown text := by
  intro c inside
  have known := List.all_eq_true.mp (Grammar.numberCharacters number) c inside
  simp only [isNumberChar, Text.isAsciiDigit, Bool.or_eq_true, Bool.and_eq_true, decide_eq_true_eq, beq_iff_eq] at known
  rcases known with ((((⟨low, high⟩ | rfl) | rfl) | rfl) | rfl) | rfl
  · exact ⟨Nat.le_trans (by decide) (UInt32.le_iff_toNat_le.mp low),
      Nat.le_trans (UInt32.le_iff_toNat_le.mp high) (by decide)⟩
  all_goals decide

theorem floatShown (x : Binary64) : AllShown (x.text floatStyle).toList := by
  cases x with
  | nan => decide
  | infinite negative => cases negative <;> decide
  | finite negative m => exact numberShown (Binary64.finiteText negative m)

theorem intercalateShown {parts : List String} (all : ∀ part ∈ parts, AllShown part.toList) :
    AllShown (", ".intercalate parts).toList := by
  induction parts with
  | nil => decide
  | cons first rest ih =>
    rw [List.forall_mem_cons] at all
    cases rest with
    | nil => simpa using all.1
    | cons next others =>
      rw [String.intercalate_cons_cons, String.toList_append, String.toList_append]
      exact shownAppend (shownAppend all.1 (by decide)) (ih all.2)

mutual

theorem renderShown (value : Json) : AllShown value.render.toList := by
  match value with
  | .null => decide
  | .bool true => decide
  | .bool false => decide
  | .int i => exact numberShown (integerText i)
  | .float x => exact floatShown x
  | .string t => exact quoteShown t
  | .array items =>
    have inside := intercalateShown (itemsShown items)
    rw [render, String.toList_append, String.toList_append]
    exact shownAppend (shownAppend (by decide) inside) (by decide)
  | .object members =>
    have inside := intercalateShown (membersShown members)
    rw [render, String.toList_append, String.toList_append]
    exact shownAppend (shownAppend (by decide) inside) (by decide)

theorem itemsShown (items : List Json) : ∀ part ∈ renderItems items, AllShown part.toList := by
  match items with
  | [] => exact List.forall_mem_nil _
  | item :: rest => exact List.forall_mem_cons.mpr ⟨renderShown item, itemsShown rest⟩

theorem membersShown (members : List (Text × Json)) : ∀ part ∈ renderMembers members, AllShown part.toList := by
  match members with
  | [] => exact List.forall_mem_nil _
  | (name, value) :: rest =>
    refine List.forall_mem_cons.mpr ⟨?_, membersShown rest⟩
    rw [String.toList_append, String.toList_append]
    exact shownAppend (shownAppend (quoteShown name) (by decide)) (renderShown value)

end

end UtilityLayout.Json

import UtilityLayout.Proofs.Text.Ending

/-! Lower case in parts. The image of a capital sigma depends on its neighbours, but never on what stands beyond a
character that is neither cased nor looked through; at such a character a text may be cut. -/
namespace UtilityLayout.Text

structure Parts (c : Char) : Prop where
  uncased : isCased c = false
  seen : isCaseIgnorable c = false
  noSigma : c ≠ 'Σ'
  kept : lowerChar c = [c]

theorem hyphenParts : Parts '-' where
  uncased := by decide
  seen := by decide +kernel
  noSigma := by decide
  kept := by decide

variable {c : Char}

theorem startsCasedParted (parts : Parts c) (before after : List Char) :
    startsCased (before ++ c :: after) = startsCased before := by
  induction before with
  | nil => simp [startsCased, parts.seen, parts.uncased]
  | cons d rest ih =>
    simp only [startsCased, List.cons_append] at ih ⊢
    cases seen : isCaseIgnorable d with
    | true => rw [List.dropWhile_cons_of_pos seen, List.dropWhile_cons_of_pos seen, ih]
    | false => simp [seen]

theorem lowerAfterParted (parts : Parts c) (afterCased : Bool) (before after : List Char) :
    lowerAfter afterCased (before ++ c :: after) = lowerAfter afterCased before ++ c :: lowerAfter false after := by
  induction before generalizing afterCased with
  | nil => simp [lowerAfter, parts.noSigma, parts.kept, parts.seen, parts.uncased]
  | cons d rest ih =>
    rw [List.cons_append, lowerAfter, lowerAfter, ih, startsCasedParted parts, List.append_assoc]

theorem lowerParted (parts : Parts c) (before after : List Char) :
    lower (before ++ c :: after) = lower before ++ c :: lower after :=
  lowerAfterParted parts false before after

theorem lowerKept {text : List Char} (kept : ∀ c ∈ text, c ≠ 'Σ' ∧ lowerChar c = [c]) : lower text = text := by
  have all (afterCased : Bool) : lowerAfter afterCased text = text := by
    induction text generalizing afterCased with
    | nil => rfl
    | cons d rest ih =>
      obtain ⟨⟨noSigma, same⟩, others⟩ := List.forall_mem_cons.mp kept
      rw [lowerAfter, if_neg noSigma, same, ih others, List.singleton_append]
  exact all false

theorem lowerSome {text : List Char} (some : text ≠ []) : lower text ≠ [] := by
  obtain ⟨d, rest, rfl⟩ := List.exists_cons_of_ne_nil some
  obtain ⟨image, next, same, nonempty, _⟩ := lowerCons false d rest
  rw [lower, same]
  simp [nonempty]

end UtilityLayout.Text

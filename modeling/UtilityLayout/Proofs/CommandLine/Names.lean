import UtilityLayout.CommandLine.Parsing
import UtilityLayout.Proofs.Results

/-! Names of options as they are written. The start of a long name stands for its option if no other option's name
starts so, and what follows the first equals sign is the value, whatever it is. -/
namespace UtilityLayout.CommandLine

structure Abbreviates (name : List Char) (o : Opt) : Prop where
  starts : name <+: o.long.toList
  only : ∀ other : Opt, name <+: other.long.toList → other = o

def written (name : List Char) : Option String → String
  | none => String.ofList name
  | some value => String.ofList (name ++ '=' :: value.toList)

variable {name : List Char} {o : Opt}

theorem fullName (o : Opt) : Abbreviates o.long.toList o := by
  refine ⟨List.prefix_refl _, ?_⟩
  cases o <;> intro other <;> cases other <;> decide

theorem longDashes (o : Opt) : ['-', '-'] <+: o.long.toList := by
  cases o <;> decide

theorem longNoEquals (o : Opt) : '=' ∉ o.long.toList := by
  cases o <;> decide

theorem nameLong (short : Abbreviates name o) : ∃ c rest, name = '-' :: '-' :: c :: rest := by
  have common (few : name <+: ['-', '-']) : False := by
    have help := short.only .help (few.trans (longDashes .help))
    have debug := short.only .debug (few.trans (longDashes .debug))
    cases help.trans debug.symm
  rcases List.prefix_or_prefix_of_prefix short.starts (longDashes o) with few | ⟨more, rfl⟩
  · exact (common few).elim
  · cases more with
    | nil => exact (common (List.prefix_refl _)).elim
    | cons c rest => exact ⟨c, rest, rfl⟩

theorem nameNoEquals (short : Abbreviates name o) : '=' ∉ name :=
  fun inside => longNoEquals o (short.starts.subset inside)

theorem nameNotShort (short : Abbreviates name o) : (name == shortHelp) = false := by
  obtain ⟨c, rest, rfl⟩ := nameLong short
  rfl

theorem abbreviatedOne (short : Abbreviates name o) : abbreviated name = [o] := by
  have each (other : Opt) : name.isPrefixOf other.long.toList = decide (other = o) := by
    rw [Bool.eq_iff_iff, List.isPrefixOf_iff_prefix, decide_eq_true_eq]
    constructor
    · exact short.only other
    · rintro rfl
      exact short.starts
  simp only [abbreviated, each]
  cases o <;> rfl

theorem abbreviatesOfOne (one : abbreviated name = [o]) : Abbreviates name o := by
  have each (other : Opt) : other ∈ abbreviated name ↔ name <+: other.long.toList := by
    rw [abbreviated, List.mem_filter, List.isPrefixOf_iff_prefix, and_iff_right]
    cases other <;> decide
  rw [one] at each
  exact ⟨(each o).mp List.mem_cons_self, fun other starts => List.mem_singleton.mp ((each other).mpr starts)⟩

theorem namedFull (short : Abbreviates name o) {other : Opt} (found : named? name = some other) : other = o := by
  rw [named?, nameNotShort short, if_neg Bool.false_ne_true] at found
  have same : other.long.toList = name := by simpa using List.find?_some found
  exact short.only other (same ▸ List.prefix_refl _)

theorem namedName (found : named? name = some o) : name = shortHelp ∧ o = .help ∨ Abbreviates name o := by
  unfold named? at found
  split at found
  · rename_i same
    cases found
    exact .inl ⟨eq_of_beq same, rfl⟩
  · have same : o.long.toList = name := by simpa using List.find?_some found
    rw [← same]
    exact .inr (fullName o)

theorem namedNoEquals (equals : '=' ∈ name) : named? name = none := by
  rw [Option.eq_none_iff_forall_ne_some]
  intro other found
  rcases namedName found with ⟨rfl, _⟩ | short
  · revert equals
    decide
  · exact nameNoEquals short equals

theorem takeName (plain : '=' ∉ name) (rest : List Char) :
    (name ++ rest).takeWhile (· != '=') = name ++ rest.takeWhile (· != '=') := by
  refine List.takeWhile_append_of_pos fun c inside => ?_
  rw [bne_iff_ne]
  rintro rfl
  exact plain inside

theorem assignmentOf (plain : '=' ∉ name) (value? : Option String) :
    assignment (written name value?).toList = (name, value?) := by
  cases value? with
  | none =>
    have all := takeName plain []
    rw [List.append_nil] at all
    simp [written, assignment, all]
  | some value =>
    have all := takeName plain ('=' :: value.toList)
    simp [written, assignment, all]

theorem assignmentWritten {text : List Char} {value? : Option String} (cut : assignment text = (name, value?)) :
    String.ofList text = written name value? := by
  have whole := List.takeWhile_append_dropWhile (p := (· != '=')) (l := text)
  have sign := List.head?_dropWhile_not (· != '=') text
  have dropped : text.drop (text.takeWhile (· != '=')).length = text.dropWhile (· != '=') := by
    conv => lhs; arg 2; rw [← whole]
    exact List.drop_left
  simp only [assignment, dropped] at cut
  generalize text.takeWhile (· != '=') = first at whole cut
  generalize text.dropWhile (· != '=') = rest at whole sign cut
  cases rest with
  | nil =>
    cases cut
    rw [← whole, List.append_nil]
    rfl
  | cons c value =>
    cases cut
    obtain rfl : c = '=' := by simpa using sign
    rw [written, String.toList_ofList, whole]

theorem namedWritten (short : Abbreviates name o) {value? : Option String} {other : Opt}
    (found : named? (written name value?).toList = some other) : other = o ∧ value? = none := by
  cases value? with
  | none =>
    have alone : (written name none).toList = name := String.toList_ofList
    rw [alone] at found
    exact ⟨namedFull short found, rfl⟩
  | some value =>
    have equals : '=' ∈ (written name (some value)).toList := by simp [written]
    rw [namedNoEquals equals] at found
    contradiction

theorem classifyWritten (short : Abbreviates name o) (value? : Option String) :
    classify (written name value?) = .ok (.named o value?) := by
  have cut := assignmentOf (nameNoEquals short) value?
  have whole (other : Opt) := @namedWritten name o short value? other
  obtain ⟨c, rest, letters⟩ := nameLong short
  obtain ⟨more, text⟩ : ∃ more, (written name value?).toList = '-' :: '-' :: more := by
    cases value? <;> simp [written, letters]
  unfold classify
  simp only [cut]
  rw [text] at whole ⊢
  cases found : named? ('-' :: '-' :: more) with
  | some other =>
    obtain ⟨rfl, rfl⟩ := whole other found
    rfl
  | none =>
    cases assigned : value?.bind fun _ => named? name with
    | some other =>
      obtain ⟨value, _, full⟩ := Option.bind_eq_some_iff.mp assigned
      simp only [namedFull short full, nameNotShort short, Bool.false_eq_true, if_false]
    | none => simp only [abbreviatedOne short, if_true]

theorem writtenClassified {argument : String} {value? : Option String} (other : o ≠ .help)
    (read : classify argument = .ok (.named o value?)) :
    ∃ name, Abbreviates name o ∧ argument = written name value? := by
  rcases cut : assignment argument.toList with ⟨name, given?⟩
  have whole := assignmentWritten cut
  rw [String.ofList_toList] at whole
  have ofNamed {name : List Char} (found : named? name = some o) : Abbreviates name o :=
    (namedName found).resolve_left fun help => other help.2
  unfold classify at read
  simp only [cut] at read
  split at read
  · rename_i second rest text
    split at read
    · rename_i found
      cases read
      exact ⟨argument.toList, ofNamed found, by rw [written, String.ofList_toList]⟩
    · rename_i assigned
      obtain ⟨value, _, full⟩ := Option.bind_eq_some_iff.mp assigned
      split at read
      · cases read
      · cases read
        exact ⟨name, ofNamed full, whole⟩
    · split at read
      · split at read
        · split at read <;> cases read
        · rename_i one
          cases read
          exact ⟨name, abbreviatesOfOne one, whole⟩
        · cases read
      · split at read
        · cases read
        · split at read <;> cases read
  · cases read

end UtilityLayout.CommandLine

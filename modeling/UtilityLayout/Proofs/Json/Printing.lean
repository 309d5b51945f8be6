import UtilityLayout.Proofs.Json.Numbers

/-! Printed values in the grammar. What is printed is a JSON text exactly if all its numbers are finite; the names of
members, and strings, are told by the same code units as before. -/
namespace UtilityLayout.Json
open Grammar

theorem hexDigitValue {n : Nat} (small : n < 16) : Text.hexValue? (Text.hexDigit n) = some n := by
  have all : ∀ n < 16, Text.hexValue? (Text.hexDigit n) = some n := by decide
  exact all n small

theorem unitWritten {code : Nat} (small : code < 0x10000) : IsUnit code (Text.hexDigits 4 code) := by
  have digit (n : Nat) : Text.hexValue? (Text.hexDigit (n % 16)) = some (n % 16) :=
    hexDigitValue (Nat.mod_lt n (by decide))
  have unit := IsUnit.digits (digit (code / 16 / 16 / 16)) (digit (code / 16 / 16)) (digit (code / 16)) (digit code)
  have value : 0x1000 * (code / 16 / 16 / 16 % 16) + 0x100 * (code / 16 / 16 % 16) + 0x10 * (code / 16 % 16) +
      code % 16 = code := by omega
  rw [value] at unit
  exact unit

theorem unitBody {code : Nat} (small : code < 0x10000) {units : List Nat} {text : List Char}
    (rest : IsBody units text) : IsBody (code :: units) (escapeUnit code ++ text) :=
  .unit (unitWritten small) rest

theorem charBound (c : Char) : c.toNat < 0x110000 := by
  rcases c.valid with small | ⟨_, small⟩
  · exact Nat.lt_trans small (by decide)
  · exact small

theorem codeBody (c : Char) {units : List Nat} {text : List Char} (rest : IsBody units text) :
    IsBody ((CodePoint.char c).units ++ units) (escapeCode c.toNat ++ text) := by
  have bound := charBound c
  simp only [escapeCode, CodePoint.units]
  split
  · rename_i small
    exact unitBody small rest
  · rw [List.append_assoc]
    exact unitBody (by omega) (unitBody (by omega) rest)

theorem charBody (c : Char) {units : List Nat} {text : List Char} (rest : IsBody units text) :
    IsBody ((CodePoint.char c).units ++ units) (escapeChar c ++ text) := by
  unfold escapeChar
  split
  · subst c
    exact .short (by decide) rest
  rename_i quote
  split
  · subst c
    exact .short (by decide) rest
  rename_i backslash
  iterate 5
    split
    · subst c
      exact .short (by decide) rest
  split
  · rename_i shown
    simp only [Bool.and_eq_true, decide_eq_true_eq] at shown
    exact .plain shown.1 ⟨quote, backslash⟩ rest
  · exact codeBody c rest

theorem pointBody (point : CodePoint) {units : List Nat} {text : List Char} (rest : IsBody units text) :
    IsBody (point.units ++ units) (escapePoint point ++ text) := by
  cases point with
  | char c => exact charBody c rest
  | half offset =>
    have small : (CodePoint.half offset).code < 0x10000 := by
      simp only [CodePoint.code]
      omega
    exact unitBody small rest

theorem quoteBody (t : Text) :
    ∃ body, (quote t).toList = quoted body ∧ IsBody t.units body := by
  refine ⟨t.points.flatMap escapePoint, String.toList_ofList, ?_⟩
  rw [Text.units]
  induction t.points with
  | nil => exact .nil
  | cons point rest ih =>
    rw [List.flatMap_cons, List.flatMap_cons]
    exact pointBody point ih

theorem naturalWhole (n : Nat) : IsWhole (Nat.toDigits 10 n) := by
  by_cases zero : n = 0
  · subst zero
    exact .inl rfl
  · exact .inr ⟨Numeral.toDigitsDigits n, Numeral.toDigitsLeading zero⟩

theorem integerText (i : Int) : IsNumber (toString i).toList := by
  rw [Int.toString_eq_repr, Int.repr_eq_if]
  split
  · rw [Nat.toList_repr]
    exact ⟨[], _, [], [], .inl rfl, naturalWhole i.toNat, .inl rfl, .inl rfl, by simp⟩
  · rw [String.toList_append, Nat.toList_repr]
    exact ⟨['-'], _, [], [], .inr rfl, naturalWhole (-i).toNat, .inl rfl, .inl rfl, by simp⟩

mutual

def isStrict : Json → Bool
  | .float x => x.isFinite
  | .array items => itemsStrict items
  | .object members => membersStrict members
  | _ => true

def itemsStrict : List Json → Bool
  | [] => true
  | item :: rest => isStrict item && itemsStrict rest

def membersStrict : List (Text × Json) → Bool
  | [] => true
  | (_, value) :: rest => isStrict value && membersStrict rest

end

def toldMembers (members : List (Text × Json)) : List (List Nat × List Char) :=
  members.map fun (name, value) => (name.units, (render value).toList)

theorem gapNone : IsGap [] := by
  simp [IsGap]

theorem gapSpace : IsGap [' '] := by
  simp [IsGap]

theorem spacedAfter {gap text : List Char} (blank : IsGap gap) (value : Spells .value text) :
    Spells .spaced (gap ++ text) := by
  have spaced := Spells.spaced blank value gapNone
  rw [List.append_nil] at spaced
  exact spaced

theorem memberAfter {gap : List Char} (blank : IsGap gap) (name : Text) {value : List Char}
    (spelled : Spells .value value) :
    Spells (.member name.units value) (gap ++ ((quote name).toList ++ [':', ' '] ++ value)) := by
  obtain ⟨body, written, named⟩ := quoteBody name
  have member := Spells.member blank named gapNone gapSpace spelled gapNone
  rw [written]
  simpa using member

mutual

theorem renderSpells (value : Json) (strict : value.isStrict = true) : Spells .value value.render.toList := by
  match value with
  | .null => exact .null
  | .bool true => exact .yes
  | .bool false => exact .no
  | .int i => exact .number (integerText i)
  | .float (.finite negative m) => exact .number (Binary64.finiteText negative m)
  | .string t =>
    obtain ⟨body, written, spelled⟩ := quoteBody t
    rw [render, written]
    exact .string spelled
  | .array [] => exact .noItems gapNone
  | .array (item :: rest) =>
    have items := itemsSpells (item :: rest) gapNone (by simp) strict
    rw [render, String.toList_append, String.toList_append]
    exact .array items
  | .object [] => exact .noMembers gapNone
  | .object (member :: rest) =>
    have members := membersSpells (member :: rest) gapNone (by simp) strict
    rw [render, String.toList_append, String.toList_append]
    exact .object members

theorem itemsSpells (items : List Json) {gap : List Char} (blank : IsGap gap) (some : items ≠ [])
    (strict : itemsStrict items = true) :
    Spells .items (gap ++ (", ".intercalate (renderItems items)).toList) := by
  match items with
  | [] => contradiction
  | [item] =>
    rw [itemsStrict, Bool.and_eq_true] at strict
    rw [renderItems, renderItems, String.intercalate_singleton]
    exact .lastItem (spacedAfter blank (renderSpells item strict.1))
  | item :: next :: others =>
    rw [itemsStrict, Bool.and_eq_true] at strict
    have first := spacedAfter blank (renderSpells item strict.1)
    have more := Spells.moreItems first (itemsSpells (next :: others) gapSpace (by simp) strict.2)
    have text : ", ".intercalate (renderItems (item :: next :: others)) =
      item.render ++ ", " ++ ", ".intercalate (renderItems (next :: others)) := String.intercalate_cons_cons
    simpa [text] using more

theorem membersSpells (members : List (Text × Json)) {gap : List Char} (blank : IsGap gap)
    (some : members ≠ []) (strict : membersStrict members = true) :
    Spells (.members (toldMembers members)) (gap ++ (", ".intercalate (renderMembers members)).toList) := by
  match members with
  | [] => contradiction
  | [(name, value)] =>
    rw [membersStrict, Bool.and_eq_true] at strict
    have member := memberAfter blank name (renderSpells value strict.1)
    rw [renderMembers, renderMembers, String.intercalate_singleton]
    simpa [toldMembers] using Spells.lastMember member
  | (name, value) :: next :: others =>
    rw [membersStrict, Bool.and_eq_true] at strict
    have first := memberAfter blank name (renderSpells value strict.1)
    have more := Spells.moreMembers first (membersSpells (next :: others) gapSpace (by simp) strict.2)
    have text : ", ".intercalate (renderMembers ((name, value) :: next :: others)) =
      quote name ++ ": " ++ value.render ++ ", " ++ ", ".intercalate (renderMembers (next :: others)) :=
        String.intercalate_cons_cons
    simpa [text, toldMembers] using more

end

theorem bareAfter {first second : List Char} (one : Neutral first)
    (two : placeAfter? .outside second = none) : placeAfter? .outside (first ++ second) = none := by
  rw [placeAppend, one]
  exact two

theorem bareBefore {first : List Char} (one : placeAfter? .outside first = none) (second : List Char) :
    placeAfter? .outside (first ++ second) = none := by
  rw [placeAppend, one]
  rfl

theorem quoteNeutral (t : Text) : Neutral (quote t).toList := by
  obtain ⟨body, written, spelled⟩ := quoteBody t
  rw [written]
  exact quotedNeutral spelled

theorem listBare {first : String} {rest : List String}
    (parts : placeAfter? .outside first.toList = none ∨
      Neutral first.toList ∧ placeAfter? .outside (", ".intercalate rest).toList = none) :
    placeAfter? .outside (", ".intercalate (first :: rest)).toList = none := by
  cases rest with
  | nil =>
    rw [String.intercalate_singleton]
    rcases parts with bare | ⟨_, bare⟩
    · exact bare
    · contradiction
  | cons next others =>
    rw [String.intercalate_cons_cons, String.toList_append, String.toList_append]
    rcases parts with bare | ⟨neutral, bare⟩
    · exact bareBefore (bareBefore bare _) _
    · exact bareAfter (neutralAppend neutral (by decide)) bare

mutual

theorem renderBare (value : Json) (loose : value.isStrict = false) :
    placeAfter? .outside value.render.toList = none := by
  match value with
  | .float x => exact Binary64.otherText loose
  | .array items =>
    have bare := itemsBare items loose
    rw [render, String.toList_append, String.toList_append]
    exact bareBefore (bareAfter (by decide) bare) _
  | .object members =>
    have bare := membersBare members loose
    rw [render, String.toList_append, String.toList_append]
    exact bareBefore (bareAfter (by decide) bare) _
  | .null | .bool _ | .int _ | .string _ => contradiction

theorem itemsBare (items : List Json) (loose : itemsStrict items = false) :
    placeAfter? .outside (", ".intercalate (renderItems items)).toList = none := by
  match items with
  | [] => contradiction
  | item :: rest =>
    refine listBare ?_
    cases first : item.isStrict with
    | false => exact .inl (renderBare item first)
    | true =>
      have others : itemsStrict rest = false := by simpa [itemsStrict, first] using loose
      exact .inr ⟨spellsNeutral (renderSpells item first), itemsBare rest others⟩

theorem membersBare (members : List (Text × Json)) (loose : membersStrict members = false) :
    placeAfter? .outside (", ".intercalate (renderMembers members)).toList = none := by
  match members with
  | [] => contradiction
  | (name, value) :: rest =>
    have name : Neutral (quote name ++ ": ").toList := by
      rw [String.toList_append]
      exact neutralAppend (quoteNeutral name) (by decide)
    refine listBare ?_
    rw [String.toList_append]
    cases first : value.isStrict with
    | false => exact .inl (bareAfter name (renderBare value first))
    | true =>
      have others : membersStrict rest = false := by simpa [membersStrict, first] using loose
      exact .inr ⟨neutralAppend name (spellsNeutral (renderSpells value first)), membersBare rest others⟩

end

theorem renderJson (value : Json) : IsJson value.render.toList ↔ value.isStrict = true := by
  constructor
  · intro spelled
    cases strict : value.isStrict with
    | true => rfl
    | false =>
      have neutral := spellsNeutral spelled
      rw [Neutral, renderBare value strict] at neutral
      contradiction
  · intro strict
    exact spacedAfter gapNone (renderSpells value strict)

theorem renderObject {members : List (Text × Json)} (some : members ≠ [])
    (strict : (Json.object members).isStrict = true) :
    IsObject (Json.object members).render.toList (toldMembers members) := by
  have inside := membersSpells members gapNone some strict
  refine ⟨[], _, [], gapNone, inside, gapNone, ?_⟩
  rw [render, String.toList_append, String.toList_append]
  simp

end UtilityLayout.Json

import UtilityLayout.Proofs.Json.Reading

/-! Printed values read back. A value without numbers comes back with its members in order, and every text in it, names
included, as the escapes leave it. -/
namespace UtilityLayout.Json

mutual

def isNumberless : Json → Bool
  | .int _ | .float _ => false
  | .array items => itemsNumberless items
  | .object members => membersNumberless members
  | _ => true

def itemsNumberless : List Json → Bool
  | [] => true
  | item :: rest => isNumberless item && itemsNumberless rest

def membersNumberless : List (Text × Json) → Bool
  | [] => true
  | (_, value) :: rest => isNumberless value && membersNumberless rest

end

mutual

def paired : Json → Json
  | .string t => .string t.paired
  | .array items => .array (itemsPaired items)
  | .object members => .object (membersPaired members)
  | value => value

def itemsPaired : List Json → List Json
  | [] => []
  | item :: rest => paired item :: itemsPaired rest

def membersPaired : List (Text × Json) → List (Text × Json)
  | [] => []
  | (name, value) :: rest => (name.paired, paired value) :: membersPaired rest

end

theorem itemsPairedMap (items : List Json) : itemsPaired items = items.map paired := by
  induction items with
  | nil => rfl
  | cons item rest ih => rw [itemsPaired, ih, List.map_cons]

theorem skipAfter {c : Char} (shown : isSpace c = false) (rest : List Char) : skipSpace (c :: rest) = c :: rest :=
  List.dropWhile_cons_of_neg (by simp [shown])

def Opens (text : List Char) : Prop :=
  ∃ c rest, text = c :: rest ∧ isSpace c = false ∧ c ≠ ']' ∧ c ≠ '\x7d'

theorem quoteOpens (t : Text) : Opens (quote t).toList :=
  ⟨'"', _, String.toList_ofList, rfl, by decide⟩

theorem renderOpens {value : Json} (numberless : value.isNumberless = true) : Opens value.render.toList := by
  match value with
  | .null => exact ⟨'n', _, rfl, rfl, by decide⟩
  | .bool true => exact ⟨'t', _, rfl, rfl, by decide⟩
  | .bool false => exact ⟨'f', _, rfl, rfl, by decide⟩
  | .string t => exact quoteOpens t
  | .array items => exact ⟨'[', _, by rw [render, String.toList_append, String.toList_append]; rfl, rfl, by decide⟩
  | .object members =>
    exact ⟨'\x7b', _, by rw [render, String.toList_append, String.toList_append]; rfl, rfl, by decide⟩
  | .int _ | .float _ => exact Bool.noConfusion numberless

theorem opensAppend {text : List Char} (opens : Opens text) (rest : List Char) : Opens (text ++ rest) := by
  obtain ⟨c, others, rfl, shown, inside⟩ := opens
  exact ⟨c, others ++ rest, rfl, shown, inside⟩

theorem opensSkip {text : List Char} (opens : Opens text) : skipSpace text = text := by
  obtain ⟨c, rest, rfl, shown, _⟩ := opens
  exact skipAfter shown rest

def furtherText (rest : List String) : List Char :=
  match rest with
  | [] => []
  | _ :: _ => [',', ' '] ++ (", ".intercalate rest).toList

theorem listText (first : String) (rest : List String) :
    (", ".intercalate (first :: rest)).toList = first.toList ++ furtherText rest := by
  cases rest with
  | nil => simp [furtherText]
  | cons next others => simp [furtherText, String.intercalate_cons_cons]

theorem itemsOpens (item : Json) (others : List Json) (numberless : itemsNumberless (item :: others) = true) :
    Opens (", ".intercalate (renderItems (item :: others))).toList := by
  rw [itemsNumberless, Bool.and_eq_true] at numberless
  rw [renderItems, listText]
  exact opensAppend (renderOpens numberless.1) _

theorem membersOpens (name : Text) (value : Json) (others : List (Text × Json)) :
    Opens (", ".intercalate (renderMembers ((name, value) :: others))).toList := by
  rw [renderMembers, listText, String.toList_append, String.toList_append]
  exact opensAppend (opensAppend (opensAppend (quoteOpens name) _) _) _

theorem quoteText (t : Text) (rest : List Char) :
    (quote t).toList ++ rest = '"' :: (t.points.flatMap escapePoint ++ '"' :: rest) := by
  simp [quote]

theorem furtherShorter {length more : Nat} {next : String} {rest : List String}
    (enough : length + (furtherText (next :: rest)).length ≤ more) :
    ∃ fewer, more = fewer + 1 ∧ (", ".intercalate (next :: rest)).toList.length ≤ fewer := by
  simp only [furtherText, List.length_append, List.length_cons, List.length_nil] at enough
  exact ⟨more - 1, by omega, by omega⟩

theorem withinBrackets {left right middle : String} {more : Nat} (one : left.length = 1) (other : right.length = 1)
    (enough : (left ++ middle ++ right).toList.length ≤ more) :
    ∃ fewer, more = fewer + 2 ∧ middle.toList.length ≤ fewer := by
  simp only [String.toList_append, List.length_append, String.length_toList, one, other] at enough
  exact ⟨more - 2, by omega, by rw [String.length_toList]; omega⟩

theorem lastMemberRead {text after rest : List Char} {name : Text} {value : Json} {more : Nat}
    (start : skipSpace text = (quote name).toList ++ ':' :: after)
    (read : value? more after = some (value, '\x7d' :: rest)) :
    members? (more + 1) text = some ([(name.paired, value)], rest) := by
  rw [members?, start, quoteText]
  simp only [stringRead, Option.bind_eq_bind, Option.bind_some, skipAfter (show isSpace ':' = false from rfl), read]
  rfl

theorem moreMembersRead {text after next rest : List Char} {name : Text} {value : Json}
    {members : List (Text × Json)} {more : Nat} (start : skipSpace text = (quote name).toList ++ ':' :: after)
    (read : value? more after = some (value, ',' :: next)) (others : members? more next = some (members, rest)) :
    members? (more + 1) text = some ((name.paired, value) :: members, rest) := by
  rw [members?, start, quoteText]
  simp only [stringRead, Option.bind_eq_bind, Option.bind_some, skipAfter (show isSpace ':' = false from rfl), read,
    skipAfter (show isSpace ',' = false from rfl), others]
  rfl

theorem wordRead (word : String) (value : Json) (rest : List Char) :
    word? word value (word.toList ++ rest) = some (value, rest) := by
  rw [word?, if_pos (List.isPrefixOf_iff_prefix.mpr (List.prefix_append _ _)), ← String.length_toList, List.drop_left]

theorem arrayRead {text inside rest : List Char} {items : List Json} {more : Nat}
    (start : skipSpace text = '[' :: inside) (opens : Opens inside) (read : items? more inside = some (items, rest)) :
    value? (more + 1) text = some (.array items, rest) := by
  obtain ⟨c, next, rfl, shown, other⟩ := opens
  rw [value?, start]
  simp only [skipAfter shown]
  split
  · rename_i same
    exact absurd (List.cons.inj same).1 other.1
  · rw [read]
    rfl

theorem objectRead {text inside rest : List Char} {members : List (Text × Json)} {more : Nat}
    (start : skipSpace text = '\x7b' :: inside) (opens : Opens inside)
    (read : members? more inside = some (members, rest)) :
    value? (more + 1) text = some (.object members, rest) := by
  obtain ⟨c, next, rfl, shown, other⟩ := opens
  rw [value?, start]
  simp only [skipAfter shown]
  split
  · rename_i same
    exact absurd (List.cons.inj same).1 other.2
  · rw [read]
    rfl

theorem lastItemRead {text rest : List Char} {item : Json} {more : Nat}
    (read : value? more text = some (item, ']' :: rest)) : items? (more + 1) text = some ([item], rest) := by
  rw [items?, read]
  rfl

theorem moreItemsRead {text after rest : List Char} {item : Json} {items : List Json} {more : Nat}
    (read : value? more text = some (item, ',' :: after)) (others : items? more after = some (items, rest)) :
    items? (more + 1) text = some (item :: items, rest) := by
  rw [items?, read]
  simp only [Option.bind_eq_bind, Option.bind_some, skipAfter (show isSpace ',' = false from rfl), others]
  rfl

mutual

theorem valueRead (value : Json) (numberless : value.isNumberless = true) {text rest : List Char}
    (start : skipSpace text = value.render.toList ++ rest) {more : Nat}
    (enough : value.render.toList.length ≤ more) : value? (more + 1) text = some (value.paired, rest) := by
  match value with
  | .null =>
    rw [value?, start]
    exact wordRead "ull" .null rest
  | .bool true =>
    rw [value?, start]
    exact wordRead "rue" (.bool true) rest
  | .bool false =>
    rw [value?, start]
    exact wordRead "alse" (.bool false) rest
  | .string t =>
    rw [value?, start, render, quoteText]
    simp only [stringRead, Option.map_some]
    rfl
  | .array [] =>
    rw [value?, start]
    rfl
  | .array (item :: others) =>
    rw [render] at enough start
    obtain ⟨fewer, rfl, shorter⟩ := withinBrackets rfl rfl enough
    have inside : ("[" ++ ", ".intercalate (renderItems (item :: others)) ++ "]").toList ++ rest =
        '[' :: ((", ".intercalate (renderItems (item :: others))).toList ++ ']' :: rest) := by simp
    rw [inside] at start
    have opens := opensAppend (itemsOpens item others numberless) (']' :: rest)
    have read := itemsRead (item :: others) (by simp) numberless (opensSkip opens) shorter
    exact arrayRead start opens read
  | .object [] =>
    rw [value?, start]
    rfl
  | .object ((name, value) :: others) =>
    rw [render] at enough start
    obtain ⟨fewer, rfl, shorter⟩ := withinBrackets rfl rfl enough
    have inside : ("\x7b" ++ ", ".intercalate (renderMembers ((name, value) :: others)) ++ "\x7d").toList ++ rest =
        '\x7b' :: ((", ".intercalate (renderMembers ((name, value) :: others))).toList ++ '\x7d' :: rest) := by simp
    rw [inside] at start
    have opens := opensAppend (membersOpens name value others) ('\x7d' :: rest)
    exact objectRead start opens (membersRead ((name, value) :: others) (by simp) numberless (opensSkip opens) shorter)
  | .int _ | .float _ => exact Bool.noConfusion numberless

theorem itemsRead (items : List Json) (some : items ≠ []) (numberless : itemsNumberless items = true)
    {text rest : List Char} (start : skipSpace text = (", ".intercalate (renderItems items)).toList ++ ']' :: rest)
    {more : Nat} (enough : (", ".intercalate (renderItems items)).toList.length ≤ more) :
    items? (more + 2) text = .some (itemsPaired items, rest) := by
  match items with
  | [] => contradiction
  | item :: others =>
    rw [itemsNumberless, Bool.and_eq_true] at numberless
    rw [renderItems, listText] at start enough
    rw [List.length_append] at enough
    rw [List.append_assoc] at start
    have read := valueRead item numberless.1 start (Nat.le_trans (Nat.le_add_right _ _) enough)
    match others with
    | [] => exact lastItemRead read
    | next :: further =>
      obtain ⟨fewer, rfl, shorter⟩ := furtherShorter enough
      have start : skipSpace (' ' :: ((", ".intercalate (renderItems (next :: further))).toList ++ ']' :: rest)) =
          (", ".intercalate (renderItems (next :: further))).toList ++ ']' :: rest :=
        opensSkip (opensAppend (itemsOpens next further numberless.2) _)
      exact moreItemsRead read (itemsRead (next :: further) (by simp) numberless.2 start shorter)

theorem membersRead (members : List (Text × Json)) (some : members ≠ []) (numberless : membersNumberless members = true)
    {text rest : List Char}
    (start : skipSpace text = (", ".intercalate (renderMembers members)).toList ++ '\x7d' :: rest) {more : Nat}
    (enough : (", ".intercalate (renderMembers members)).toList.length ≤ more) :
    members? (more + 2) text = .some (membersPaired members, rest) := by
  match members with
  | [] => contradiction
  | (name, value) :: others =>
    rw [membersNumberless, Bool.and_eq_true] at numberless
    rw [renderMembers, listText] at start enough
    rw [String.toList_append, String.toList_append] at start enough
    simp only [List.length_append] at enough
    simp only [List.append_assoc] at start
    have opens := opensAppend (renderOpens numberless.1) (furtherText (renderMembers others) ++ '\x7d' :: rest)
    have spaced : skipSpace (' ' :: (value.render.toList ++ (furtherText (renderMembers others) ++ '\x7d' :: rest))) =
        value.render.toList ++ (furtherText (renderMembers others) ++ '\x7d' :: rest) := opensSkip opens
    have read := valueRead value numberless.1 spaced (show value.render.toList.length ≤ more by omega)
    match others with
    | [] => exact lastMemberRead start read
    | (other, second) :: further =>
      obtain ⟨fewer, rfl, shorter⟩ := furtherShorter enough
      have next : skipSpace (' ' :: ((", ".intercalate (renderMembers ((other, second) :: further))).toList ++
          '\x7d' :: rest)) = (", ".intercalate (renderMembers ((other, second) :: further))).toList ++ '\x7d' :: rest :=
        opensSkip (opensAppend (membersOpens other second further) _)
      exact moreMembersRead start read (membersRead ((other, second) :: further) (by simp) numberless.2 next shorter)

end

theorem printedRead {value : Json} (numberless : value.isNumberless = true) :
    read? value.render = some value.paired := by
  have start : skipSpace value.render.toList = value.render.toList ++ [] := by
    rw [List.append_nil]
    exact opensSkip (renderOpens numberless)
  rw [read?, valueRead value numberless start (Nat.le_refl _)]
  rfl

end UtilityLayout.Json

import UtilityLayout.Proofs.Layout.Pairs
import UtilityLayout.Proofs.Layout.Parts

/-! One word of a class text less. A border that is covered by later ones is not missed, and a limit that is set again
later leaves a trace in the order of the limits at most. Any other word takes its entry with it, if no other word shares
that; otherwise the entry stays, and may say something else. -/
namespace UtilityLayout

namespace Layout
open Declared (key? valueFor? value? expression?)
open Utility (only)
variable {earlier later : List Utility} {u : Utility}

theorem onlyWithout (earlier later : List Utility) {f : Family} (apart : u.family ≠ f) :
    only f (earlier ++ u :: later) = only f (earlier ++ later) := by
  rw [Utility.onlyAppend, Utility.onlyElsewhere apart, ← Utility.onlyAppend]

theorem entryWithout (earlier later : List Utility) {f : Family} (apart : u.family ≠ f) :
    (ofUtilities (earlier ++ u :: later)).entryOf? f = (ofUtilities (earlier ++ later)).entryOf? f := by
  rw [entryOnly, entryOnly f (earlier ++ later), onlyWithout earlier later apart]

theorem othersWithout (earlier later : List Utility) (elsewhere : u.family ≠ .other) :
    (ofUtilities (earlier ++ u :: later)).others = (ofUtilities (earlier ++ later)).others := by
  simp only [Declared.othersOfUtilities, List.filterMap_append, List.filterMap_cons, expressionNone.mpr elsewhere]

def Covered (sides : SideSet) (later : List Utility) : Prop :=
  ∀ side, sides.contains side = true →
    ∃ others width, Utility.border others width ∈ later ∧ others.contains side = true

theorem coveredBorder {sides : SideSet} (covered : Covered sides later) (width : Binary64) :
    ofUtilities (earlier ++ .border sides width :: later) = ofUtilities (earlier ++ later) := by
  have under : (ofUtilities [.border sides width]).borders.merge (ofUtilities later).borders =
      (ofUtilities later).borders := by
    refine BorderWidths.mergeCovered fun side none => ?_
    rw [Declared.widthOfUtilities, Declared.width?, Declared.last?, List.getLast?_eq_none_iff,
      List.filterMap_eq_nil_iff] at none
    rw [Declared.widthOfUtilities]
    cases inside : sides.contains side with
    | false => simp [Declared.width?, Declared.last?, Declared.widthOn?, inside]
    | true =>
      obtain ⟨others, other, there, reaches⟩ := covered side inside
      have told := none _ there
      rw [Declared.widthOn?, if_pos reaches] at told
      contradiction
  have alone : (ofUtilities [.border sides width]).merge (ofUtilities later) = ofUtilities later := by
    have nothing : (ofUtilities [.border sides width]).constraints = ∅ := rfl
    simp only [merge, under, nothing, Table.emptyUpdate]
    rfl
  have next : ofUtilities (.border sides width :: later) = ofUtilities later := by
    rw [← List.singleton_append, ofUtilitiesAppend, alone]
  rw [ofUtilitiesAppend, next, ← ofUtilitiesAppend]

structure OrderOnly (l m : Layout) : Prop where
  pairs : l.constraints.entries.Perm m.constraints.entries
  borders : l.borders = m.borders
  others : l.others = m.others

theorem lastAppend {tells : Utility → Option α} (first second : List Utility) :
    Declared.last? tells (first ++ second) = (Declared.last? tells second).or (Declared.last? tells first) := by
  simp only [Declared.last?, List.filterMap_append, List.getLast?_append]

variable {key : ConstraintKey}

theorem limitValue (earlier : List Utility) (value : LayoutValue) (again : key ∈ later.filterMap key?)
    (other : ConstraintKey) :
    (ofUtilities (earlier ++ .constraint key value :: later)).constraints.find? other =
      (ofUtilities (earlier ++ later)).constraints.find? other := by
  simp only [Declared.valueOfUtilities, value?, lastAppend, Declared.lastCons, valueFor?]
  by_cases here : key = other
  · subst here
    obtain ⟨v, inside, told⟩ := List.mem_filterMap.mp again
    have found : Declared.last? (valueFor? key) later ≠ none := by
      rw [Declared.last?, Ne, List.getLast?_eq_none_iff, List.filterMap_eq_nil_iff]
      intro silent
      cases v with
      | constraint other value =>
        cases told
        have none := silent _ inside
        rw [valueFor?, if_pos rfl] at none
        contradiction
      | _ => contradiction
    obtain ⟨word, found⟩ := Option.ne_none_iff_exists'.mp found
    simp only [found, Option.some_or]
  · rw [if_neg here, Option.or_none]

theorem limitOrder (earlier : List Utility) (value : LayoutValue) (again : key ∈ later.filterMap key?) :
    OrderOnly (ofUtilities (earlier ++ .constraint key value :: later)) (ofUtilities (earlier ++ later)) where
  pairs := Table.permOfFind (limitValue earlier value again)
  borders := by
    have apart : (Utility.constraint key value).family ≠ .border := by simp [Utility.family]
    rw [(partsOnly _).1, onlyWithout earlier later apart, ← (partsOnly (earlier ++ later)).1]
  others := othersWithout earlier later (by simp [Utility.family])

theorem orderTold {l m : Layout} (order : OrderOnly l m)
    (found : ∀ key, l.constraints.find? key = m.constraints.find? key) (same : l.compose = m.compose) :
    l.constraints = m.constraints := by
  have entries : l.entries = m.entries := by
    rw [← ofEntriesEntries l.entries, ← ofEntriesEntries m.entries]
    exact congrArg Composition.entries same
  have alike : Constraints.text? l.constraints = none ↔ Constraints.text? m.constraints = none := by
    rw [Constraints.textNone, Constraints.textNone, ← List.length_eq_zero_iff, ← List.length_eq_zero_iff,
      order.pairs.length_eq]
  refine Constraints.textTells found ?_
  unfold Layout.entries at entries
  cases one : Constraints.text? l.constraints with
  | none => exact (alike.mp one).symm
  | some text =>
    cases two : Constraints.text? m.constraints with
    | none => exact one.symm.trans (alike.mpr two)
    | some other =>
      rw [one, two] at entries
      exact congrArg some (List.cons.inj entries).1

theorem limitNoticed (earlier : List Utility) (value : LayoutValue) (again : key ∈ later.filterMap key?) :
    (ofUtilities (earlier ++ .constraint key value :: later)).compose ≠ (ofUtilities (earlier ++ later)).compose ↔
      key ∉ earlier.filterMap key? ∧
        ∃ other ∈ (later.filterMap key?).takeWhile (· ≠ key), other ∉ earlier.filterMap key? := by
  have order := limitOrder earlier value again
  have whole : (ofUtilities (earlier ++ .constraint key value :: later)).constraints.keys =
      (earlier.filterMap key? ++ key :: later.filterMap key?).eraseDups := by
    rw [Declared.keysOfUtilities, Declared.keys, List.filterMap_append]
    rfl
  have rest : (ofUtilities (earlier ++ later)).constraints.keys =
      (earlier.filterMap key? ++ later.filterMap key?).eraseDups := by
    rw [Declared.keysOfUtilities, Declared.keys, List.filterMap_append]
  have found := limitValue earlier value again
  rw [← firstsMoved again, ← whole, ← rest]
  generalize ofUtilities (earlier ++ .constraint key value :: later) = l, ofUtilities (earlier ++ later) = m at *
  refine not_congr ⟨fun same => congrArg Table.keys (orderTold order found same), fun keys => ?_⟩
  obtain ⟨_, constraints, _⟩ := l
  obtain ⟨_, _, _⟩ := m
  cases order.borders
  cases order.others
  cases Table.extFind keys found
  rfl

theorem onlyAlone {f : Family} (family : u.family = f) (own : ∀ v ∈ earlier ++ later, v.family ≠ f) :
    only f (earlier ++ u :: later) = only f [u] := by
  obtain ⟨first, second⟩ := List.forall_mem_append.mp own
  have none {utilities : List Utility} (elsewhere : ∀ v ∈ utilities, v.family ≠ f) : only f utilities = [] :=
    List.filter_eq_nil_iff.mpr fun v inside => by simpa using elsewhere v inside
  rw [Utility.onlyAppend, none first, Utility.onlyHere family, none second, Utility.onlyHere family]
  rfl

theorem within {v : Utility} (inside : v ∈ earlier ++ later) : v ∈ earlier ++ u :: later :=
  (List.mem_append.mp inside).elim (List.mem_append_left _)
    fun there => List.mem_append_right _ (List.mem_cons_of_mem _ there)

theorem sidedWithout (sided : Sided (earlier ++ u :: later)) : Sided (earlier ++ later) :=
  fun sides width inside => sided sides width (within inside)

theorem entryAlone {f : Family} (shared : f ≠ .other) (family : u.family = f) (sided : Sided (earlier ++ u :: later))
    (own : ∀ v ∈ earlier ++ later, v.family ≠ f) :
    ∃ entry, (ofUtilities [u]).entryOf? f = some entry ∧
      (ofUtilities (earlier ++ u :: later)).entryOf? f = some entry ∧
      (ofUtilities (earlier ++ later)).entryOf? f = none := by
  have whole : (ofUtilities (earlier ++ u :: later)).entryOf? f = (ofUtilities [u]).entryOf? f := by
    rw [entryOnly, onlyAlone family own, ← entryOnly]
  have some : (ofUtilities (earlier ++ u :: later)).entryOf? f ≠ none := by
    rw [Ne, entryNone shared sided]
    exact fun elsewhere => elsewhere u (by simp) family
  obtain ⟨entry, told⟩ := Option.ne_none_iff_exists'.mp some
  exact ⟨entry, whole.symm.trans told, told, (entryNone shared (sidedWithout sided)).mpr own⟩

theorem entryElsewhere {f : Family} (apart : u.family ≠ f) : (ofUtilities [u]).entryOf? f = none := by
  have without := entryWithout [] [] apart
  rw [List.nil_append, List.nil_append] at without
  rw [without]
  cases f <;> rfl

theorem aroundWithout (earlier later : List Utility) {f : Family} (shared : f ≠ .other) (family : u.family = f) :
    (ofUtilities (earlier ++ u :: later)).around f = (ofUtilities (earlier ++ later)).around f := by
  have others := othersWithout earlier later (family ▸ shared)
  cases f with
  | border => rw [around, around, others, entryWithout earlier later (by simp [family])]
  | limit => rw [around, around, others, entryWithout earlier later (by simp [family])]
  | other => contradiction

theorem aroundAlone {f : Family} (shared : f ≠ .other) (family : u.family = f) :
    (ofUtilities [u]).around f = ([], []) := by
  have nothing := aroundWithout [] [] shared family
  rw [List.nil_append, List.nil_append] at nothing
  rw [nothing]
  cases f with
  | border => rfl
  | limit => rfl
  | other => contradiction

structure Gone (u : Utility) (entry : Text) (front back whole rest : List Text) : Prop where
  own : (ofUtilities [u]).entries = [entry]
  before : whole = front ++ entry :: back
  after : rest = front ++ back

theorem goneOther (earlier later : List Utility) (family : u.family = .other) :
    ∃ entry front, Gone u entry front (later.filterMap expression?) (ofUtilities (earlier ++ u :: later)).entries
      (ofUtilities (earlier ++ later)).entries := by
  obtain ⟨entry, told⟩ := Option.ne_none_iff_exists'.mp fun none => expressionNone.mp none family
  have limit : u.family ≠ .limit := by simp [family]
  have border : u.family ≠ .border := by simp [family]
  let rest := ofUtilities (earlier ++ later)
  let shared := (rest.entryOf? .limit).toList ++ (rest.entryOf? .border).toList
  refine ⟨entry, shared ++ earlier.filterMap expression?, ?_⟩
  exact {
    own := by
      rw [entriesParts, entryElsewhere limit, entryElsewhere border, Declared.othersOfUtilities]
      simp [told]
    before := by
      rw [entriesParts, entryWithout earlier later limit, entryWithout earlier later border,
        Declared.othersOfUtilities, List.filterMap_append, List.filterMap_cons, told, ← List.append_assoc]
    after := by
      rw [entriesParts, Declared.othersOfUtilities, List.filterMap_append, ← List.append_assoc] }

theorem goneAlone (shared : u.family ≠ .other) (sided : Sided (earlier ++ u :: later))
    (own : ∀ v ∈ earlier ++ later, v.family ≠ u.family) :
    ∃ entry front back, Gone u entry front back (ofUtilities (earlier ++ u :: later)).entries
      (ofUtilities (earlier ++ later)).entries := by
  obtain ⟨entry, single, whole, rest⟩ := entryAlone shared rfl sided own
  let left := (ofUtilities (earlier ++ later)).around u.family
  refine ⟨entry, left.1, left.2, ?_⟩
  exact {
    own := by
      rw [entriesAround _ u.family, aroundAlone shared rfl, single]
      rfl
    before := by
      rw [entriesAround _ u.family, aroundWithout earlier later shared rfl, whole, Option.toList_some,
        List.append_assoc]
      rfl
    after := by
      rw [entriesAround _ u.family, rest, Option.toList_none, List.append_nil] }

structure Stays (f : Family) (l m : Layout) (entry other : Text) (front back : List Text) : Prop where
  before : l.entryOf? f = some entry
  after : m.entryOf? f = some other
  aroundBefore : l.around f = (front, back)
  aroundAfter : m.around f = (front, back)

theorem entriesStay {f : Family} {l m : Layout} {entry other : Text} {front back : List Text}
    (kept : Stays f l m entry other front back) :
    l.entries = front ++ entry :: back ∧ m.entries = front ++ other :: back := by
  rw [entriesAround l f, entriesAround m f, kept.before, kept.after, kept.aroundBefore, kept.aroundAfter]
  simp

theorem stays (shared : u.family ≠ .other) (sided : Sided (earlier ++ u :: later))
    (another : ∃ v ∈ earlier ++ later, v.family = u.family) :
    ∃ entry other front back, Stays u.family (ofUtilities (earlier ++ u :: later)) (ofUtilities (earlier ++ later))
      entry other front back := by
  obtain ⟨v, inside, family⟩ := another
  have some {utilities : List Utility} (sided : Sided utilities) (inside : v ∈ utilities) :
      ∃ entry, (ofUtilities utilities).entryOf? u.family = some entry := by
    refine Option.ne_none_iff_exists'.mp fun none => ?_
    exact (entryNone shared sided).mp none v inside family
  obtain ⟨entry, whole⟩ := some sided (within inside)
  obtain ⟨other, rest⟩ := some (sidedWithout sided) inside
  exact ⟨entry, other, _, _, whole, rest, aroundWithout earlier later shared rfl, rfl⟩

end Layout

namespace Theme
open Layout (ofUtilities Covered OrderOnly Gone Stays)
open Declared (key? expression?)
open Utility (read?)

structure WordLess (theme : Theme) (whole rest : String) (before : List (List Char)) (word : List Char) (u : Utility)
    (after : List (List Char)) : Prop where
  told : Text.words whole.toList = before ++ word :: after
  left : Text.words rest.toList = before ++ after
  reads : read? theme word = some u

variable {theme : Theme} {whole rest : String} {before after : List (List Char)} {word : List Char} {u : Utility}

theorem utilitiesWhole (less : WordLess theme whole rest before word u after) :
    theme.utilities whole = before.filterMap (read? theme) ++ u :: after.filterMap (read? theme) := by
  rw [utilities, less.told, List.filterMap_append, List.filterMap_cons, less.reads]

theorem utilitiesRest (less : WordLess theme whole rest before word u after) :
    theme.utilities rest = before.filterMap (read? theme) ++ after.filterMap (read? theme) := by
  rw [utilities, less.left, List.filterMap_append]

/- A word less. A covered border is not missed. A limit that is set again leaves the pairs and all else as they are;
their order is another just if the word was the first with its key and some other key is new before the next with it.
Any other word takes its entry away where it is its own: always if it is no border and no limit, and otherwise if it is
the only one. An entry that is shared stays in its place, and so does all around it. -/
theorem wordMissed (less : WordLess theme whole rest before word u after) :
    let earlier := before.filterMap (read? theme)
    let later := after.filterMap (read? theme)
    (∀ sides width, u = .border sides width → Covered sides later → theme.convert rest = theme.convert whole) ∧
    (∀ key value, u = .constraint key value → key ∈ later.filterMap key? →
      OrderOnly (ofUtilities (theme.utilities whole)) (ofUtilities (theme.utilities rest)) ∧
      (theme.convert whole ≠ theme.convert rest ↔ key ∉ earlier.filterMap key? ∧
        ∃ other ∈ (later.filterMap key?).takeWhile (· ≠ key), other ∉ earlier.filterMap key?)) ∧
    ((u.family = .other ∨ ∀ v ∈ earlier ++ later, v.family ≠ u.family) →
      ∃ entry front back, Gone u entry front back (theme.convert whole).entries (theme.convert rest).entries ∧
        (u.family = .other → back = later.filterMap expression?)) ∧
    (u.family ≠ .other → (∃ v ∈ earlier ++ later, v.family = u.family) →
      ∃ entry other front back,
        Stays u.family (ofUtilities (theme.utilities whole)) (ofUtilities (theme.utilities rest))
          entry other front back ∧
        (theme.convert whole).entries = front ++ entry :: back ∧
        (theme.convert rest).entries = front ++ other :: back) := by
  intro earlier later
  have sided : Layout.Sided (earlier ++ u :: later) := by
    intro sides width inside
    rw [← utilitiesWhole less] at inside
    exact utilitiesSided theme whole inside
  have entries (classes : String) : (theme.convert classes).entries = (ofUtilities (theme.utilities classes)).entries :=
    Layout.ofEntriesEntries _
  rw [entries, entries, convert, convert, utilitiesWhole less, utilitiesRest less]
  refine ⟨?_, ?_, ?_, ?_⟩
  · rintro sides width rfl covered
    rw [Layout.coveredBorder covered]
  · rintro key value rfl again
    exact ⟨Layout.limitOrder earlier value again, Layout.limitNoticed earlier value again⟩
  · intro own
    by_cases other : u.family = .other
    · obtain ⟨entry, front, gone⟩ := Layout.goneOther earlier later other
      exact ⟨entry, front, _, gone, fun _ => rfl⟩
    · obtain ⟨entry, front, back, gone⟩ := Layout.goneAlone other sided (own.resolve_left other)
      exact ⟨entry, front, back, gone, fun same => absurd same other⟩
  · intro shared another
    obtain ⟨entry, other, front, back, kept⟩ := Layout.stays shared sided another
    exact ⟨entry, other, front, back, kept, Layout.entriesStay kept⟩

theorem wordMissedEach :
    builtIn.convert "p-2 border-2 border-b" = builtIn.convert "border-x-3 p-2 border-2 border-b" ∧
    builtIn.convert "max-w-lg min-h-1 max-w-xl" ≠ builtIn.convert "min-h-1 max-w-xl" ∧
    OrderOnly (ofUtilities (builtIn.utilities "max-w-lg min-h-1 max-w-xl"))
      (ofUtilities (builtIn.utilities "min-h-1 max-w-xl")) ∧
    (∃ entry front back, Gone (.spacing 16) entry front back (builtIn.convert "border p-4 max-w-lg p-2").entries
      (builtIn.convert "border max-w-lg p-2").entries) ∧
    ∃ entry other front back, Stays .limit (ofUtilities (builtIn.utilities "border p-4 max-w-lg min-h-1"))
      (ofUtilities (builtIn.utilities "border p-4 min-h-1")) entry other front back := by
  have border : WordLess builtIn "border-x-3 p-2 border-2 border-b" "p-2 border-2 border-b" [] "border-x-3".toList
      (.border (.ofList [.left, .right]) 3) ["p-2".toList, "border-2".toList, "border-b".toList] :=
    ⟨by decide +kernel, by decide +kernel, by decide +kernel⟩
  have limit : WordLess builtIn "max-w-lg min-h-1 max-w-xl" "min-h-1 max-w-xl" [] "max-w-lg".toList
      (.constraint ⟨.greatest, .width⟩ (.number 512)) ["min-h-1".toList, "max-w-xl".toList] :=
    ⟨by decide +kernel, by decide +kernel, by decide +kernel⟩
  have spacing : WordLess builtIn "border p-4 max-w-lg p-2" "border max-w-lg p-2" ["border".toList] "p-4".toList
      (.spacing 16) ["max-w-lg".toList, "p-2".toList] :=
    ⟨by decide +kernel, by decide +kernel, by decide +kernel⟩
  have common : WordLess builtIn "border p-4 max-w-lg min-h-1" "border p-4 min-h-1" ["border".toList, "p-4".toList]
      "max-w-lg".toList (.constraint ⟨.greatest, .width⟩ (.number 512)) ["min-h-1".toList] :=
    ⟨by decide +kernel, by decide +kernel, by decide +kernel⟩
  have covered : Covered (.ofList [.left, .right])
      (["p-2".toList, "border-2".toList, "border-b".toList].filterMap (read? builtIn)) := by
    intro side _
    exact ⟨.full, 2, by decide +kernel, by cases side <;> decide⟩
  obtain ⟨order, noticed⟩ := (wordMissed limit).2.1 _ _ rfl (by decide +kernel)
  obtain ⟨entry, front, back, gone, _⟩ := (wordMissed spacing).2.2.1 (.inl rfl)
  obtain ⟨whole, other, first, last, kept, _⟩ := (wordMissed common).2.2.2 nofun (by decide +kernel)
  exact ⟨(wordMissed border).1 _ _ rfl covered, noticed.mpr (by decide +kernel), order, ⟨entry, front, back, gone⟩,
    whole, other, first, last, kept⟩

def SharesEntry (theme : Theme) (whole rest : String) (u : Utility) (entry : Text) : Prop :=
  (ofUtilities [u]).entries = [entry] ∧ entry ∈ (theme.convert whole).entries ∧
    ¬∃ entry front back, Gone u entry front back (theme.convert whole).entries (theme.convert rest).entries

theorem sharesOfLength {entry : Text} (own : (ofUtilities [u]).entries = [entry])
    (told : entry ∈ (theme.convert whole).entries)
    (same : (theme.convert whole).entries.length = (theme.convert rest).entries.length) :
    SharesEntry theme whole rest u entry := by
  refine ⟨own, told, ?_⟩
  rintro ⟨entry, front, back, gone⟩
  rw [gone.before, gone.after] at same
  simp at same

theorem wordSharesEntry :
    (∃ whole rest before word key value entry,
      WordLess builtIn whole rest before word (.constraint key value) [] ∧
        SharesEntry builtIn whole rest (.constraint key value) entry) ∧
    ∃ whole rest before word sides width entry,
      WordLess builtIn whole rest before word (.border sides width) [] ∧
        SharesEntry builtIn whole rest (.border sides width) entry := by
  constructor
  · refine ⟨"p-4 max-w-lg max-w-xl", "p-4 max-w-lg", ["p-4".toList, "max-w-lg".toList], "max-w-xl".toList,
      ⟨.greatest, .width⟩, .number 576, "BoxConstraints(maxWidth: 576.0)", ?_, ?_⟩
    · exact ⟨by decide +kernel, by decide +kernel, by decide +kernel⟩
    · exact sharesOfLength (by decide +kernel) (by decide +kernel) (by decide +kernel)
  · refine ⟨"p-4 border-2 border-3", "p-4 border-2", ["p-4".toList, "border-2".toList], "border-3".toList,
      .full, 3, "Border.all(width: 3.0)", ?_, ?_⟩
    · exact ⟨by decide +kernel, by decide +kernel, by decide +kernel⟩
    · exact sharesOfLength (by decide +kernel) (by decide +kernel) (by decide +kernel)

end Theme
end UtilityLayout

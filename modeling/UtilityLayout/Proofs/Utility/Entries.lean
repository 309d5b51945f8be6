import UtilityLayout.Proofs.Theme.Tables
import UtilityLayout.Proofs.Results
import UtilityLayout.Proofs.Text.Lowering
import UtilityLayout.Proofs.Utility.Rules
import UtilityLayout.Store.Basic

/-! Classes that name an entry of a theme. They are lower-cased before anything is looked up, and the names of a theme
are not: what a class says stands under the lower-case form of the name that it gives. So an entry can be named exactly
if its own name is in lower case. -/
namespace UtilityLayout.Utility
open Text (NoBlank lower)

def maxWidthOf (name : List Char) : List Char :=
  "max-w-".toList ++ name

def roundedOf (name : List Char) : List Char :=
  "rounded-".toList ++ name

/- A class that gives this name says what a theme has under that entry: a keyword by itself, a size after `max-w-`, a
radius after `rounded-`. A keyword that is spelled like the whole class comes before the other two. -/
structure Says (theme : Theme) (name entry : List Char) : Prop where
  keyword : ∀ text, theme.keywords.find? (.ofChars entry) = some text → read? theme name = some (.keyword text)
  size : ∀ value, theme.sizes.find? (.ofChars entry) = some value →
    theme.keywords.find? (.ofChars (maxWidthOf entry)) = none →
      read? theme (maxWidthOf name) = some (.constraint ⟨.greatest, .width⟩ (narrowed .width value))
  radius : ∀ value, theme.radii.find? (.ofChars entry) = some value →
    theme.keywords.find? (.ofChars (roundedOf entry)) = none → read? theme (roundedOf name) = some (.radius value)

theorem segmentsAfter {first : List Char} (whole : first.contains '-' = false) (rest : List Char) :
    segments (first ++ '-' :: rest) = first :: segments rest := by
  have clean : ∀ c ∈ first, (c == '-') = false := by
    intro c inside
    rw [beq_eq_false_iff_ne]
    rintro rfl
    rw [List.contains_iff_mem.mpr inside] at whole
    contradiction
  rw [segments, Text.splitAppend (by decide), Text.splitClean clean]
  rfl

theorem maxWidthSegments (name : List Char) :
    segments (maxWidthOf name) = "max".toList :: "w".toList :: segments name := by
  have first := @segmentsAfter "max".toList (by decide) ('w' :: '-' :: name)
  have second := @segmentsAfter "w".toList (by decide) name
  rw [← second]
  exact first

theorem roundedSegments (name : List Char) : segments (roundedOf name) = "rounded".toList :: segments name :=
  @segmentsAfter "rounded".toList (by decide) name

theorem maxWidthLower (name : List Char) : lower (maxWidthOf name) = maxWidthOf (lower name) := by
  have front : lower "max-w".toList = "max-w".toList := by decide +kernel
  have cut := Text.lowerParted Text.hyphenParts "max-w".toList name
  rw [front] at cut
  exact cut

theorem roundedLower (name : List Char) : lower (roundedOf name) = roundedOf (lower name) := by
  have front : lower "rounded".toList = "rounded".toList := by decide +kernel
  have cut := Text.lowerParted Text.hyphenParts "rounded".toList name
  rw [front] at cut
  exact cut

section Named
variable {theme : Theme} {name : List Char}

theorem readNamed (clean : NoBlank name) : read? theme name = ofName? theme (lower name) := by
  rw [read?, Text.trimClean clean]

theorem keywordNamed (some : name ≠ []) {text : Text} (found : theme.keywords.find? (.ofChars name) = .some text) :
    ofName? theme name = .some (.keyword text) := by
  rw [ofName?, if_neg (by simpa using some), found]

theorem sizeNamed {value : LayoutValue} (found : theme.sizes.find? (.ofChars name) = some value)
    (free : theme.keywords.find? (.ofChars (maxWidthOf name)) = none) :
    ofName? theme (maxWidthOf name) = some (.constraint ⟨.greatest, .width⟩ (narrowed .width value)) := by
  have bound : bound? "max".toList = some .greatest := by decide
  have border : is "max".toList "border" = false := by decide
  have axis : axisOf "w".toList = .width := by decide
  have limit : ofConstraint? theme .greatest ("w".toList :: segments name) =
      some (.constraint ⟨.greatest, .width⟩ (narrowed .width value)) := by
    rw [ofConstraint?, hyphenatedSegments, found, axis]
  have whole : maxWidthOf name ≠ [] := List.append_ne_nil_of_left_ne_nil (by decide) name
  rw [ofName?, if_neg (by simpa using whole), free]
  simp only [maxWidthSegments, ofSegments?, border, bound, Option.bind_some, limit, Bool.false_eq_true, if_false]

theorem radiusNamed (some : name ≠ []) {value : LayoutValue} (found : theme.radii.find? (.ofChars name) = .some value)
    (free : theme.keywords.find? (.ofChars (roundedOf name)) = none) :
    ofName? theme (roundedOf name) = .some (.radius value) := by
  have bound : bound? "rounded".toList = none := by decide
  have border : is "rounded".toList "border" = false := by decide
  have rounded : is "rounded".toList "rounded" = true := by decide
  have own : radiusName (roundedOf name) = name := by
    simp [radiusName, roundedSegments, hyphenatedSegments, some]
  have radius : ofRadius? theme (segments name) = .some (.radius value) := by
    rw [radiusCut (roundedSegments name), own, found]
    rfl
  have whole : roundedOf name ≠ [] := List.append_ne_nil_of_left_ne_nil (by decide) name
  rw [ofName?, if_neg (by simpa using whole), free]
  simp only [roundedSegments, ofSegments?, border, bound, Option.bind_none, rounded, radius, Bool.false_eq_true,
    if_false, if_true]

theorem saysLower (theme : Theme) (some : name ≠ []) (clean : NoBlank name) : Says theme name (lower name) := by
  have limit : NoBlank (maxWidthOf name) := List.forall_mem_append.mpr ⟨Text.noBlankOfAny rfl, clean⟩
  have rounded : NoBlank (roundedOf name) := List.forall_mem_append.mpr ⟨Text.noBlankOfAny rfl, clean⟩
  refine ⟨?_, ?_, ?_⟩
  · intro text found
    rw [readNamed clean, keywordNamed (Text.lowerSome some) found]
  · intro value found free
    rw [readNamed limit, maxWidthLower, sizeNamed found free]
  · intro value found free
    rw [readNamed rounded, roundedLower, radiusNamed (Text.lowerSome some) found free]

theorem keywordOfRead (clean : Text.EndsClean name) {text : Text} (read : ofName? theme name = some (.keyword text)) :
    theme.keywords.find? (.ofChars name) = some text := by
  obtain ⟨first, rest, cut⟩ := segmentsCons name
  rw [ofName?] at read
  split at read
  · contradiction
  · split at read
    · rename_i other found
      cases read
      exact found
    · rename_i missing
      rw [cut] at read
      -- No other rule makes a keyword.
      obtain ⟨rule, ⟨applies, _⟩, makes⟩ := ofSegmentsFirst clean cut (fun known => known missing) read
      cases rule with
      | keyword => exact absurd missing applies
      | border | limit | radius | number =>
        obtain ⟨_, _, same⟩ := makes
        contradiction
      | pixel => contradiction
      | fraction =>
        obtain ⟨_, _, _, same⟩ := makes
        contradiction

end Named

def oneKeyword (name : List Char) : Datum :=
  .map [(.text "keywords", .map [(.text (.ofChars name), .text "x")])]

def withKeyword (name : List Char) : Theme :=
  { Theme.builtIn with name := "t", keywords := Theme.defaultKeywords.update [(.ofChars name, "x")] }

theorem oneKeywordLoads (name : List Char) : Theme.ofDocument (oneKeyword name) "t" = .ok (withKeyword name) := by
  have laid : Theme.overlay? .text Datum.text? Theme.defaultKeywords
      ([(Text.ofChars name, ("x" : Text))].map (Theme.entryDatum .text)) = some (withKeyword name).keywords :=
    Theme.overlayTold Theme.textRead _ _
  exact Theme.ofDocumentOk.mpr ⟨rfl, rfl, rfl, ⟨_, rfl, laid⟩, ⟨_, rfl, rfl⟩, ⟨_, rfl, rfl⟩⟩

theorem withKeywordOwn (name : List Char) : (withKeyword name).keywords.find? (.ofChars name) = some "x" := by
  simp [withKeyword, Table.findUpdate]

theorem withKeywordOther {name other : List Char} (differs : other ≠ name) :
    (withKeyword name).keywords.find? (.ofChars other) ≠ some "x" := by
  have apart : Text.ofChars name ≠ .ofChars other := fun same => differs (Text.ofCharsInjective same.symm)
  have builtIn : ∀ entry ∈ Theme.defaultKeywords.entries, entry.2 ≠ "x" := by decide
  intro found
  rw [withKeyword, Table.findUpdate] at found
  simp only [List.filter_cons, apart, decide_false, List.filter_nil, List.getLast?_nil, Option.map_none, Option.none_or,
    Bool.false_eq_true, if_false] at found
  exact builtIn _ (Table.memberOfFind _ found) rfl

theorem lowerOfSays {name : List Char} (clean : NoBlank name)
    (told : ∀ datum fileName theme, Theme.ofDocument datum fileName = .ok theme → Says theme name name) :
    lower name = name := by
  refine Classical.byContradiction fun differs => ?_
  have own := (told _ _ _ (oneKeywordLoads name)).keyword "x" (withKeywordOwn name)
  have ends : Text.EndsClean (lower name) := Text.lowerEndsClean fun c last => clean c (List.mem_of_getLast? last)
  rw [readNamed clean] at own
  exact withKeywordOther differs (keywordOfRead ends own)

theorem namedInLowerCase {name : List Char} (some : name ≠ []) (clean : NoBlank name) :
    (∀ theme, Says theme name (lower name)) ∧
    ((∀ datum fileName theme, Theme.ofDocument datum fileName = .ok theme → Says theme name name) ↔
      lower name = name) := by
  refine ⟨fun theme => saysLower theme some clean, lowerOfSays clean, ?_⟩
  intro lowered datum fileName theme _
  have told := saysLower theme some clean
  rwa [lowered] at told

theorem namedInLowerCaseDashed :
    let name := "2xl-größe".toList
    name ≠ [] ∧ NoBlank name ∧
      ∀ datum fileName theme, Theme.ofDocument datum fileName = .ok theme → Says theme name name := by
  have clean : NoBlank "2xl-größe".toList := Text.noBlankOfAny (by decide +kernel)
  exact ⟨by decide, clean, (namedInLowerCase (by decide) clean).2.mpr (by decide +kernel)⟩

theorem capitalNotNamed :
    let files : FileTree := ⟨.ofList [(["lib"], .directory), (["lib", "t.yaml"], .file "radii:\n  Big: 40\n")], []⟩
    ¬∀ theme, ThemeStore.readTheme files ⟨.root, ["lib", "t.yaml"]⟩ = .ok theme →
      Says theme "Big".toList "Big".toList := by
  intro files all
  let theme : Theme :=
    { Theme.builtIn with name := "t", radii := Theme.defaultRadii.update [("Big", .number 40)] }
  have loaded : ThemeStore.readTheme files ⟨.root, ["lib", "t.yaml"]⟩ = .ok theme :=
    okOfOption (by decide +kernel)
  have found : theme.radii.find? (.ofChars "Big".toList) = some (.number 40) := by decide +kernel
  have free : theme.keywords.find? (.ofChars (roundedOf "Big".toList)) = none := by decide +kernel
  have read : read? theme (roundedOf "Big".toList) = none := by decide +kernel
  have told := (all theme loaded).radius _ found free
  rw [read] at told
  contradiction

end UtilityLayout.Utility

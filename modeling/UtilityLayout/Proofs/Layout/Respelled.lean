import UtilityLayout.Layout.Composition
import UtilityLayout.Proofs.Text.Casing

/-! Capitals and white space in a class text carry no meaning: the same classes in lower case, or with other gaps
between them, say the same. -/
namespace UtilityLayout

theorem Utility.readLower (theme : Theme) {word : List Char} (clean : Text.NoBlank word) :
    read? theme (Text.lower word) = read? theme word := by
  rw [read?, read?, Text.trimClean (Text.lowerClean clean), Text.trimClean clean, Text.lowerTwice]

namespace Theme

theorem readingsLower (theme : Theme) (classes : String) :
    (Text.words (Text.lower classes.toList)).map (Utility.read? theme) =
      (Text.words classes.toList).map (Utility.read? theme) := by
  rw [Text.wordsLower, List.map_map]
  refine List.map_congr_left fun word inside => ?_
  exact Utility.readLower theme fun c letter => Text.wordsClean inside letter

theorem utilitiesOfReadings (theme : Theme) (classes : String) :
    theme.utilities classes = ((Text.words classes.toList).map (Utility.read? theme)).filterMap id := by
  rw [List.filterMap_map]
  rfl

theorem explainReadings (theme : Theme) (classes : String) :
    (theme.explain classes).map Reading.utility? = (Text.words classes.toList).map (Utility.read? theme) := by
  rw [explain, List.map_map]
  rfl

theorem convertOfReadings {theme : Theme} {a b : String}
    (same : (Text.words a.toList).map (Utility.read? theme) = (Text.words b.toList).map (Utility.read? theme)) :
    theme.convert a = theme.convert b := by
  rw [convert, convert, utilitiesOfReadings, utilitiesOfReadings, same]

theorem caseAndSpaceIgnored (theme : Theme) (classes : String) :
    let lowered := String.ofList (Text.lower classes.toList)
    theme.convert lowered = theme.convert classes ∧
    (theme.explain lowered).map Reading.utility? = (theme.explain classes).map Reading.utility? ∧
    ∀ lead parts, parts.map Prod.fst = Text.words classes.toList → Text.Gaps lead parts →
      let respaced := String.ofList (Text.respaced lead parts)
      theme.convert respaced = theme.convert classes ∧ theme.explain respaced = theme.explain classes := by
  intro lowered
  have same := readingsLower theme classes
  rw [← @String.toList_ofList (Text.lower classes.toList)] at same
  refine ⟨convertOfReadings same, ?_, ?_⟩
  · rw [explainReadings, explainReadings, same]
  · intro lead parts words gaps respaced
    have same : Text.words (String.ofList (Text.respaced lead parts)).toList = Text.words classes.toList := by
      rw [String.toList_ofList, Text.respacedWords words gaps]
    refine ⟨convertOfReadings (congrArg _ same), ?_⟩
    rw [explain, explain, same]

theorem caseAndSpaceIgnoredSigma :
    let classes := "P-4 \u0130ΑΣ W-Full"
    let parts := [("P-4".toList, ['\t', '\u0085']), ("\u0130ΑΣ".toList, [' ']), ("W-Full".toList, [])]
    Text.lower classes.toList = "p-4 i\u0307ας w-full".toList ∧
    builtIn.convert (String.ofList (Text.lower classes.toList)) = builtIn.convert classes ∧
    parts.map Prod.fst = Text.words classes.toList ∧ Text.Gaps ['\u3000'] parts ∧
    builtIn.explain (String.ofList (Text.respaced ['\u3000'] parts)) = builtIn.explain classes := by
  intro classes parts
  have words : parts.map Prod.fst = Text.words classes.toList := by decide +kernel
  have gaps : Text.Gaps ['\u3000'] parts := ⟨by decide +kernel, by decide +kernel, by decide⟩
  obtain ⟨converted, -, respaced⟩ := caseAndSpaceIgnored builtIn classes
  exact ⟨by decide +kernel, converted, words, gaps, (respaced _ _ words gaps).2⟩

end Theme

end UtilityLayout

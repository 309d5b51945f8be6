import UtilityLayout.Table
import UtilityLayout.Expression
/-! Themes: the tables that class names are looked up in, and the length of one spacing step. The built-in
tables are the stock scale. -/
namespace UtilityLayout

structure Theme where
  name : Text
  description : Text
  spacingUnit : Binary64
  keywords : Table Text Text
  sizes : Table Text LayoutValue
  radii : Table Text LayoutValue
  deriving DecidableEq, Repr

namespace Theme

def defaultName : String := "tailwind"

def defaultSpacingUnit : Binary64 := 4

def defaultKeywords : Table Text Text := .ofList [
  ("w-full", Expression.infinity),
  ("h-full", Expression.infinity),
  ("w-screen", Expression.screenSize ++ ".width"),
  ("h-screen", Expression.screenSize ++ ".height")]

def defaultSizes : Table Text LayoutValue := .ofList [
  ("xs", .number 320),
  ("sm", .number 384),
  ("md", .number 448),
  ("lg", .number 512),
  ("xl", .number 576),
  ("2xl", .number 672),
  ("3xl", .number 768),
  ("4xl", .number 896),
  ("5xl", .number 1024),
  ("6xl", .number 1152),
  ("7xl", .number 1280),
  ("full", .literal Expression.infinity),
  ("screen", .literal Expression.screenSize)]

def defaultRadii : Table Text LayoutValue := .ofList [
  ("sm", .number 4),
  ("rounded", .number 6),
  ("md", .number 8),
  ("lg", .number 12),
  ("xl", .number 16),
  ("2xl", .number 24),
  ("3xl", .number 32),
  ("full", .literal "BoxShape.circle")]

def builtIn : Theme :=
  ⟨defaultName, "", defaultSpacingUnit, defaultKeywords, defaultSizes, defaultRadii⟩

structure Summary where
  name : Text
  description : Text
  spacingUnit : Binary64
  keywordCount : Nat
  sizeCount : Nat
  radiusCount : Nat
  deriving DecidableEq, Repr

def summary (t : Theme) : Summary :=
  ⟨t.name, t.description, t.spacingUnit, t.keywords.size, t.sizes.size, t.radii.size⟩

end Theme
end UtilityLayout

import UtilityLayout.Files.Tree
/-! The library that comes with the program: one theme, the stock scale. -/
namespace UtilityLayout.Shipped

def directory : Path := ⟨.root, ["opt", "layout", "themes", "library"]⟩

def themeText : String :=
"name: tailwind
description: Stock Tailwind CSS scale mapped to Flutter logical pixels

# Logical pixels per numeric class unit (p-4 -> 16.0)
spacing_unit: 4

keywords:
  w-full: double.infinity
  h-full: double.infinity
  w-screen: MediaQuery.of(context).size.width
  h-screen: MediaQuery.of(context).size.height

sizes:
  xs: 320
  sm: 384
  md: 448
  lg: 512
  xl: 576
  2xl: 672
  3xl: 768
  4xl: 896
  5xl: 1024
  6xl: 1152
  7xl: 1280
  full: double.infinity
  screen: MediaQuery.of(context).size

radii:
  sm: 4
  rounded: 6
  md: 8
  lg: 12
  xl: 16
  2xl: 24
  3xl: 32
  full: BoxShape.circle
"

def files (workingDirectory : Path) : FileTree :=
  let bare : FileTree := ⟨∅, []⟩
  let (withLibrary, _) := bare.ensureDirectories directory
  let (prepared, _) := withLibrary.ensureDirectories workingDirectory
  { prepared.set (directory.child "tailwind.yaml").parts (.file themeText) with
    workingDirectory := workingDirectory.parts }

end UtilityLayout.Shipped

import UtilityLayout.Table
import UtilityLayout.Utility.Basic
/-! What a list of utilities adds up to. Per side and per constraint key the last utility wins; a key keeps
the place of its first use; every other utility keeps its own expression, in order. -/
namespace UtilityLayout

/- Widths of the four sides. Widths that one utility gave to all sides at once are kept as one, so that
they count as equal even where the number is not equal to itself. -/
inductive BorderWidths where
  | joint (width : Binary64)
  | each (top right bottom left : Option Binary64)
  deriving DecidableEq, Repr

namespace BorderWidths

def none : BorderWidths := .each .none .none .none .none

instance : EmptyCollection BorderWidths := ⟨none⟩

def width? : BorderWidths → Side → Option Binary64
  | .joint w, _ => some w
  | .each t _ _ _, .top => t
  | .each _ r _ _, .right => r
  | .each _ _ b _, .bottom => b
  | .each _ _ _ l, .left => l

def ofSides (f : Side → Option Binary64) : BorderWidths :=
  .each (f .top) (f .right) (f .bottom) (f .left)

def set (b : BorderWidths) (sides : SideSet) (width : Binary64) : BorderWidths :=
  if sides = .full then .joint width
  else if sides = .ofList [] then b
  else ofSides fun s => if sides.contains s then some width else b.width? s

def resolved (b : BorderWidths) : List (Side × Binary64) :=
  Side.all.filterMap fun s => (b.width? s).map (s, ·)

def isEmpty (b : BorderWidths) : Bool :=
  b.resolved.isEmpty

/- The width of all four sides, if they agree; among zeros that of the top. -/
def uniform? : BorderWidths → Option Binary64
  | .joint w => some w
  | .each (some t) (some r) (some b) (some l) =>
    if t.equals r && t.equals b && t.equals l then some t else .none
  | .each .. => .none

def merge (first second : BorderWidths) : BorderWidths :=
  match second with
  | .joint w => .joint w
  | .each .. =>
    if second.isEmpty then first
    else ofSides fun s => (second.width? s).or (first.width? s)

theorem widthOfSides (f : Side → Option Binary64) (s : Side) : (ofSides f).width? s = f s := by
  cases s <;> rfl

theorem widthSet (b : BorderWidths) (sides : SideSet) (width : Binary64) (s : Side) :
    (b.set sides width).width? s = if sides.contains s then some width else b.width? s := by
  unfold set
  split
  · rename_i all
    subst all
    cases s <;> rfl
  · split
    · rename_i nothing
      subst nothing
      cases s <;> rfl
    · exact widthOfSides _ s

end BorderWidths

abbrev Constraints := Table ConstraintKey LayoutValue

structure Layout where
  borders : BorderWidths := ∅
  constraints : Constraints := ∅
  others : List Text := []
  deriving DecidableEq

namespace Layout

def empty : Layout := {}

def add (l : Layout) : Utility → Layout
  | .border sides width => { l with borders := l.borders.set sides width }
  | .constraint key value => { l with constraints := l.constraints.insert key value }
  | .keyword text => { l with others := l.others ++ [text] }
  | .radius value | .other value => { l with others := l.others ++ [Expression.value value] }
  | .spacing x => { l with others := l.others ++ [.ofString (Expression.number x)] }

def ofUtilities (utilities : List Utility) : Layout :=
  utilities.foldl add empty

def merge (first second : Layout) : Layout :=
  ⟨first.borders.merge second.borders, first.constraints.update second.constraints.entries,
    first.others ++ second.others⟩

end Layout
end UtilityLayout

import UtilityLayout.Expression
/-! What a utility class says about a layout: a whole expression, border widths, one size constraint, a
corner radius, a spacing, or any other value. -/
namespace UtilityLayout

inductive Side where
  | top
  | right
  | bottom
  | left
  deriving DecidableEq, Repr

namespace Side

def all : List Side := [top, right, bottom, left]

def name : Side → String
  | top => "top"
  | right => "right"
  | bottom => "bottom"
  | left => "left"

def ofName? (text : String) : Option Side :=
  all.find? (·.name == text)

theorem ofName (s : Side) : ofName? s.name = some s := by
  cases s <;> decide

end Side

structure SideSet where
  top : Bool := false
  right : Bool := false
  bottom : Bool := false
  left : Bool := false
  deriving DecidableEq, Repr

namespace SideSet

def contains (sides : SideSet) : Side → Bool
  | .top => sides.top
  | .right => sides.right
  | .bottom => sides.bottom
  | .left => sides.left

def ofList (sides : List Side) : SideSet :=
  ⟨sides.contains .top, sides.contains .right, sides.contains .bottom, sides.contains .left⟩

def toList (sides : SideSet) : List Side :=
  Side.all.filter sides.contains

def full : SideSet := ofList Side.all

theorem ofToList (sides : SideSet) : ofList sides.toList = sides := by
  obtain ⟨t, r, b, l⟩ := sides
  cases t <;> cases r <;> cases b <;> cases l <;> decide

end SideSet

inductive Bound where
  | least
  | greatest
  deriving DecidableEq, Repr

inductive Axis where
  | width
  | height
  deriving DecidableEq, Repr

def Axis.name : Axis → String
  | .width => "width"
  | .height => "height"

structure ConstraintKey where
  bound : Bound
  axis : Axis
  deriving DecidableEq, Repr

namespace ConstraintKey

def all : List ConstraintKey :=
  [⟨.least, .width⟩, ⟨.least, .height⟩, ⟨.greatest, .width⟩, ⟨.greatest, .height⟩]

def name : ConstraintKey → String
  | ⟨.least, .width⟩ => "minWidth"
  | ⟨.least, .height⟩ => "minHeight"
  | ⟨.greatest, .width⟩ => "maxWidth"
  | ⟨.greatest, .height⟩ => "maxHeight"

def ofName? (text : String) : Option ConstraintKey :=
  all.find? (·.name == text)

theorem ofName (key : ConstraintKey) : ofName? key.name = some key := by
  obtain ⟨bound, axis⟩ := key
  cases bound <;> cases axis <;> decide

end ConstraintKey

inductive Utility where
  | keyword (text : Text)
  | border (sides : SideSet) (width : Binary64)
  | constraint (key : ConstraintKey) (value : LayoutValue)
  | radius (value : LayoutValue)
  | spacing (value : Binary64)
  | other (value : LayoutValue)
  deriving DecidableEq, Repr

end UtilityLayout

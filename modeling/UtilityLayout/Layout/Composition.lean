import UtilityLayout.Text.Blank
import UtilityLayout.Layout.Basic
import UtilityLayout.Utility.Reading
/-! A layout as one text: the constraints, then the border, then the other expressions. No entry gives the
empty value, one entry stands alone, and more are written as a list. -/
namespace UtilityLayout

namespace Constraints

def argument (entry : ConstraintKey × LayoutValue) : Text :=
  Text.ofString (entry.1.name ++ ": ") ++ Expression.value entry.2

def text? (c : Constraints) : Option Text :=
  if c.isEmpty then none
  else
    let arguments := Text.intercalate ", " (c.entries.map argument)
    some (Text.ofString "BoxConstraints(" ++ arguments ++ Text.ofString ")")

end Constraints

namespace BorderWidths

def sideText (width : Binary64) : String :=
  "BorderSide(width: " ++ Expression.number width ++ ")"

def text? (b : BorderWidths) : Option String :=
  if b.isEmpty then .none
  else match b.uniform? with
    | some width => some ("Border.all(width: " ++ Expression.number width ++ ")")
    | .none =>
      let arguments := b.resolved.map fun entry => entry.1.name ++ ": " ++ sideText entry.2
      some ("Border(" ++ ", ".intercalate arguments ++ ")")

end BorderWidths

namespace Layout

inductive Shape where
  | empty
  | single
  | aggregate
  deriving DecidableEq, Repr

namespace Shape

def name : Shape → String
  | empty => "empty"
  | single => "single"
  | aggregate => "aggregate"

def label : Shape → String
  | empty => "Flutter Value"
  | single => "Flutter Value / Object"
  | aggregate => "Flutter List<dynamic>"

def copyable : Shape → Bool
  | empty => false
  | _ => true

end Shape

structure Composition where
  text : Text
  shape : Shape
  entries : List Text
  deriving DecidableEq, Repr

def emptyText : String := "0.0"

def entries (l : Layout) : List Text :=
  (Constraints.text? l.constraints).toList ++ (l.borders.text?.map Text.ofString).toList ++ l.others

def Composition.ofEntries : List Text → Composition
  | [] => ⟨emptyText, .empty, []⟩
  | [entry] => ⟨entry, .single, [entry]⟩
  | entries =>
    ⟨Text.ofString "[" ++ Text.intercalate ", " entries ++ Text.ofString "]", .aggregate, entries⟩

def compose (l : Layout) : Composition :=
  .ofEntries l.entries

end Layout

structure Reading where
  written : String
  utility? : Option Utility
  deriving DecidableEq, Repr

namespace Theme

def explain (theme : Theme) (classes : String) : List Reading :=
  (Text.words classes.toList).map fun word => ⟨String.ofList word, Utility.read? theme word⟩

def utilities (theme : Theme) (classes : String) : List Utility :=
  (Text.words classes.toList).filterMap (Utility.read? theme)

def convert (theme : Theme) (classes : String) : Layout.Composition :=
  (Layout.ofUtilities (theme.utilities classes)).compose

end Theme
end UtilityLayout

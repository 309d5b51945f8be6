import UtilityLayout.Text.Blank
import UtilityLayout.Text.Lowercase
import UtilityLayout.Numeral.Plain
import UtilityLayout.Theme.Basic
import UtilityLayout.Utility.Basic
/-! One class name to what it says. The name is trimmed and lower-cased; then the first rule that applies
decides: a keyword of the theme, a border, a size constraint, a corner radius, a number at the end. A
constraint that names no size falls through to the number rule; a border never fails, and an unknown
radius says nothing. A name that says nothing is no error. -/
namespace UtilityLayout.Utility
open Text (split join)

def segments (name : List Char) : List (List Char) :=
  split (· == '-') name

def hyphenated (pieces : List (List Char)) : List Char :=
  join ['-'] pieces

def is (segment : List Char) (word : String) : Bool :=
  segment == word.toList

def sidesOfLetter? (segment : List Char) : Option SideSet :=
  match segment with
  | ['t'] => some (.ofList [.top])
  | ['r'] => some (.ofList [.right])
  | ['b'] => some (.ofList [.bottom])
  | ['l'] => some (.ofList [.left])
  | ['x'] => some (.ofList [.left, .right])
  | ['y'] => some (.ofList [.top, .bottom])
  | _ => none

/- What stands in brackets, on one line and not empty; a line feed may follow the brackets. -/
def bracketed? (text : List Char) : Option (List Char) :=
  match Numeral.dropFinalNewline text with
  | '[' :: rest =>
    let inner := rest.dropLast
    if rest.getLast? = some ']' && !inner.isEmpty && !inner.contains '\n' then some inner else none
  | _ => none

def withoutPixels? (text : List Char) : Option (List Char) :=
  match text.reverse with
  | 'x' :: 'p' :: rest => some rest.reverse
  | _ => none

def defaultBorderWidth : Binary64 := 1

def borderWidth (text : List Char) : Binary64 :=
  match bracketed? text with
  | some inner =>
    match (withoutPixels? inner).bind Numeral.number? with
    | some width => width
    | none => (Numeral.number? inner).getD defaultBorderWidth
  | none => (Numeral.number? text).getD defaultBorderWidth

def ofBorder (rest : List (List Char)) : Utility :=
  match rest with
  | [] => .border .full (borderWidth ['1'])
  | segment :: more =>
    match sidesOfLetter? segment with
    | some sides => .border sides (borderWidth (more.headD ['1']))
    | none => .border .full (borderWidth segment)

def bound? (segment : List Char) : Option Bound :=
  if is segment "max" then some .greatest
  else if is segment "min" then some .least
  else none

def axisOf (segment : List Char) : Axis :=
  if is segment "w" then .width else .height

def narrowed (axis : Axis) (value : LayoutValue) : LayoutValue :=
  if value = .literal Expression.screenSize then
    .literal (Expression.screenSize ++ "." ++ axis.name : String)
  else value

def ofConstraint? (theme : Theme) (bound : Bound) (rest : List (List Char)) : Option Utility :=
  match rest with
  | [] => none
  | segment :: more =>
    let axis := axisOf segment
    let size := hyphenated more
    match theme.sizes.find? (.ofChars size) with
    | some value => some (.constraint ⟨bound, axis⟩ (narrowed axis value))
    | none =>
      (Numeral.number? size).map fun n => .constraint ⟨bound, axis⟩ (.number (n * theme.spacingUnit))

def defaultRadiusName : List Char := "rounded".toList

def ofRadius? (theme : Theme) (rest : List (List Char)) : Option Utility :=
  let name := hyphenated rest
  let name := if name.isEmpty then defaultRadiusName else name
  (theme.radii.find? (.ofChars name)).map .radius

def fraction? (text : List Char) : Option (List Char × List Char) :=
  match split (· == '/') (Numeral.dropFinalNewline text) with
  | [numerator, denominator] =>
    if !numerator.isEmpty && numerator.all Text.isDigit &&
        !denominator.isEmpty && denominator.all Text.isDigit then
      some (numerator, denominator)
    else none
  | _ => none

def ofLast? (theme : Theme) (segment : List Char) : Option Utility :=
  if is segment "px" then some (.spacing 1)
  else match fraction? segment with
    | some (numerator, denominator) =>
      let denominator := Numeral.ofDigits denominator
      if denominator.isZero then none
      else some (.other (.literal (Expression.percentage (Numeral.ofDigits numerator / denominator))))
    | none => (Numeral.number? segment).map fun n => .spacing (n * theme.spacingUnit)

def ofSegments? (theme : Theme) (first : List Char) (rest : List (List Char)) : Option Utility :=
  if is first "border" then some (ofBorder rest)
  else match (bound? first).bind (ofConstraint? theme · rest) with
    | some utility => some utility
    | none =>
      if is first "rounded" then ofRadius? theme rest
      else ofLast? theme (rest.getLastD first)

def ofName? (theme : Theme) (name : List Char) : Option Utility :=
  if name.isEmpty then none
  else match theme.keywords.find? (.ofChars name) with
    | some text => some (.keyword text)
    | none =>
      match segments name with
      | [] => none
      | first :: rest => ofSegments? theme first rest

def read? (theme : Theme) (written : List Char) : Option Utility :=
  ofName? theme (Text.lower (Text.trim written))

end UtilityLayout.Utility

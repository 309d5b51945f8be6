import UtilityLayout.Binary64.Basic
import UtilityLayout.Text.Basic
/-! JSON values. Members keep their order; whole numbers and binary64 numbers are told apart, as 4 and 4.0
are by their texts. -/
namespace UtilityLayout

inductive Json where
  | null
  | bool (b : Bool)
  | int (i : Int)
  | float (x : Binary64)
  | string (t : Text)
  | array (items : List Json)
  | object (members : List (Text × Json))
  deriving Repr

namespace Json

def member? (name : Text) : Json → Option Json
  | .object members => members.reverse.lookup name
  | _ => none

end Json
end UtilityLayout

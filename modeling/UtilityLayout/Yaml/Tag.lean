import UtilityLayout.Numeral.Plain
import UtilityLayout.Numeral.Whole
import UtilityLayout.Text.Hex
import UtilityLayout.Yaml.Cursor
/-! Tags say what kind of value a node has. A plain scalar without a tag gets one from its text, by the
patterns of YAML 1.1: numbers may have underscores, a leading zero means base eight, and colons part digits
in base sixty. -/
namespace UtilityLayout.Yaml

inductive Tag where
  | null
  | bool
  | int
  | float
  | time
  | text
  | bytes
  | list
  | pairs
  | set
  | map
  | merge
  | default
  | unknown
  deriving DecidableEq, Repr

namespace Tag

def isScalar : Tag → Bool
  | null | bool | int | float | time | text | bytes => true
  | _ => false

def standard : String := "tag:yaml.org,2002:"

def ofName (name : String) : Tag :=
  if name = standard ++ "null" then null
  else if name = standard ++ "bool" then bool
  else if name = standard ++ "int" then int
  else if name = standard ++ "float" then float
  else if name = standard ++ "timestamp" then time
  else if name = standard ++ "str" then text
  else if name = standard ++ "binary" then bytes
  else if name = standard ++ "seq" then list
  else if name = standard ++ "omap" then pairs
  else if name = standard ++ "pairs" then pairs
  else if name = standard ++ "set" then set
  else if name = standard ++ "map" then map
  else if name = standard ++ "merge" then merge
  else if name = standard ++ "value" then default
  else unknown

end Tag

namespace Pattern

def isSign (c : Char) : Bool :=
  c == '+' || c == '-'

def isDigitOrUnderscore (c : Char) : Bool :=
  Text.isAsciiDigit c || c == '_'

def unsigned (text : List Char) : List Char :=
  match text with
  | c :: rest => if isSign c then rest else text
  | [] => []

def isNull (text : List Char) : Bool :=
  ["", "~", "null", "Null", "NULL"].any fun word => text == word.toList

def boolWords : List (String × Bool) :=
  [("yes", true), ("no", false), ("true", true), ("false", false), ("on", true), ("off", false)]

def capitalized (word : List Char) : List Char :=
  match word with
  | c :: rest => c.toUpper :: rest
  | [] => []

def isBool (text : List Char) : Bool :=
  boolWords.any fun (word, _) =>
    let word := word.toList
    text == word || text == capitalized word || text == word.map Char.toUpper

def isSixtieth : List Char → Bool
  | [c] => Text.isAsciiDigit c
  | [c, d] => '0' ≤ c && c ≤ '5' && Text.isAsciiDigit d
  | _ => false

def isSexagesimal (first : List Char → Bool) (text : List Char) : Bool :=
  match Text.split (· == ':') text with
  | group :: more => first group && !more.isEmpty && more.all isSixtieth
  | [] => false

def isCounting (text : List Char) : Bool :=
  match text with
  | c :: rest => '1' ≤ c && c ≤ '9' && rest.all isDigitOrUnderscore
  | [] => false

def isInt (text : List Char) : Bool :=
  let text := unsigned text
  match text with
  | ['0'] => true
  | '0' :: 'b' :: rest => !rest.isEmpty && rest.all fun c => c == '0' || c == '1' || c == '_'
  | '0' :: 'x' :: rest => !rest.isEmpty && rest.all fun c => (Text.hexValue? c).isSome || c == '_'
  | '0' :: rest => rest.all fun c => ('0' ≤ c && c ≤ '7') || c == '_'
  | _ => isCounting text || isSexagesimal isCounting text

def isDigits (text : List Char) : Bool :=
  match text with
  | c :: rest => Text.isAsciiDigit c && rest.all isDigitOrUnderscore
  | [] => false

def isExponent : List Char → Bool
  | [] => true
  | e :: sign :: digits =>
    (e == 'e' || e == 'E') && isSign sign && !digits.isEmpty && digits.all Text.isAsciiDigit
  | _ => false

def isFraction (text : List Char) : Bool :=
  isExponent (text.dropWhile isDigitOrUnderscore)

def isFloat (text : List Char) : Bool :=
  let body := unsigned text
  let whole := body.takeWhile (· != '.')
  match body.drop whole.length with
  | '.' :: rest =>
    (isDigits whole && isFraction rest) ||
    (isSexagesimal isDigits whole && rest.all isDigitOrUnderscore) ||
    (whole.isEmpty && (["inf", "Inf", "INF"].any fun word => rest == word.toList)) ||
    (text.head? == some '.' &&
      ((isDigits (rest.takeWhile isDigitOrUnderscore) && isFraction rest) ||
        ["nan", "NaN", "NAN"].any fun word => rest == word.toList))
  | _ => false

end Pattern

structure TimeText where
  year : List Char
  month : List Char
  day : List Char
  clock? : Option (List Char × List Char × List Char)
  fraction : List Char
  offset? : Option Int
  deriving DecidableEq, Repr

namespace TimeText

def oneOrTwo? (text : List Char) : Option (List Char × List Char) :=
  match text with
  | c :: d :: rest =>
    if !Text.isAsciiDigit c then none
    else if Text.isAsciiDigit d then some ([c, d], rest) else some ([c], d :: rest)
  | [c] => if Text.isAsciiDigit c then some ([c], []) else none
  | [] => none

def two? (text : List Char) : Option (List Char × List Char) :=
  match text with
  | c :: d :: rest =>
    if Text.isAsciiDigit c && Text.isAsciiDigit d then some ([c, d], rest) else none
  | _ => none

def after? (mark : Char) (text : List Char) : Option (List Char) :=
  match text with
  | c :: rest => if c == mark then some rest else none
  | [] => none

def minutes (hours minutes : List Char) : Int :=
  (60 * Text.digitsValue hours + Text.digitsValue minutes : Nat)

def zone? (text : List Char) : Option (Option Int) :=
  if text.isEmpty then some none
  else match text.dropWhile isGap with
    | ['Z'] => some (some 0)
    | sign :: rest => do
      if !Pattern.isSign sign then failure
      let (hours, rest) ← oneOrTwo? rest
      let signed (n : Int) : Int := if sign == '-' then -n else n
      match rest with
      | [] => some (some (signed (minutes hours [])))
      | ':' :: rest => do
        let (more, rest) ← two? rest
        if rest.isEmpty then some (some (signed (minutes hours more))) else none
      | _ => none
    | [] => none

def separator? (text : List Char) : Option (List Char) :=
  match text with
  | c :: rest =>
    if c == 'T' || c == 't' then some rest
    else if isGap c then some (rest.dropWhile isGap)
    else none
  | [] => none

def read? (text : List Char) : Option TimeText := do
  let year := text.take 4
  if year.length != 4 || !year.all Text.isAsciiDigit then failure
  let rest ← after? '-' (text.drop 4)
  let (month, rest) ← oneOrTwo? rest
  let rest ← after? '-' rest
  let (day, rest) ← oneOrTwo? rest
  if rest.isEmpty then return ⟨year, month, day, none, [], none⟩
  let rest ← separator? rest
  let (hour, rest) ← oneOrTwo? rest
  let rest ← after? ':' rest
  let (minute, rest) ← two? rest
  let rest ← after? ':' rest
  let (second, rest) ← two? rest
  let (fraction, rest) := match rest with
    | '.' :: rest => (rest.takeWhile Text.isAsciiDigit, rest.dropWhile Text.isAsciiDigit)
    | rest => ([], rest)
  let zone ← zone? rest
  return ⟨year, month, day, some (hour, minute, second), fraction, zone⟩

def isPlain (t : TimeText) : Bool :=
  t.clock?.isSome || (t.month.length == 2 && t.day.length == 2)

end TimeText

/- The tag of a plain scalar. The patterns allow one line feed at the end, but not alone. The marks of tags,
anchors and aliases have a tag that nothing can be made of. -/
def Tag.ofPlain (written : List Char) : Tag :=
  let text := Numeral.dropFinalNewline written
  if text.isEmpty then if written.isEmpty then .null else .text
  else if Pattern.isNull text then .null
  else if Pattern.isBool text then .bool
  else if Pattern.isInt text then .int
  else if Pattern.isFloat text then .float
  else if (TimeText.read? text).any TimeText.isPlain then .time
  else if text == ['<', '<'] then .merge
  else if text == ['='] then .default
  else if ['!', '&', '*'].any fun mark => text == [mark] then .unknown
  else .text

end UtilityLayout.Yaml

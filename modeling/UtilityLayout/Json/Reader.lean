import UtilityLayout.Text.Hex
import UtilityLayout.Binary64.Decimal
import UtilityLayout.Numeral.Plain
import UtilityLayout.Json.Basic
/-! JSON texts read strictly (RFC 8259): no bare words but the three of the grammar, no leading zeros, no
control characters inside strings. Escapes for both halves of a pair make one character; any other half
stands for itself. A number with a point or an exponent is a binary64 number, any other a whole number. -/
namespace UtilityLayout.Json

def isSpace (c : Char) : Bool :=
  c == ' ' || c == '\t' || c == '\n' || c == '\r'

def skipSpace (text : List Char) : List Char :=
  text.dropWhile isSpace

def unit? : List Char → Option (Nat × List Char)
  | a :: b :: c :: d :: rest => do
    let a ← Text.hexValue? a
    let b ← Text.hexValue? b
    let c ← Text.hexValue? c
    let d ← Text.hexValue? d
    some (0x1000 * a + 0x100 * b + 0x10 * c + d, rest)
  | _ => none

def lowUnit? : List Char → Option (Nat × List Char)
  | '\\' :: 'u' :: rest => (unit? rest).filter fun (low, _) => 0xdc00 ≤ low && low < 0xe000
  | _ => none

def escapedUnits? (text : List Char) : Option (CodePoint × List Char) := do
  let (unit, rest) ← unit? text
  if 0xd800 ≤ unit && unit < 0xdc00 then
    match lowUnit? rest with
    | some (low, rest) =>
      some (.ofNat (0x10000 + (unit - 0xd800) * 0x400 + (low - 0xdc00)), rest)
    | none => some (.ofNat unit, rest)
  else some (.ofNat unit, rest)

def escaped? : List Char → Option (CodePoint × List Char)
  | 'u' :: rest => escapedUnits? rest
  | c :: rest =>
    match c with
    | '"' => some (.char '"', rest)
    | '\\' => some (.char '\\', rest)
    | '/' => some (.char '/', rest)
    | 'b' => some (.char '\x08', rest)
    | 'f' => some (.char '\x0c', rest)
    | 'n' => some (.char '\n', rest)
    | 'r' => some (.char '\r', rest)
    | 't' => some (.char '\t', rest)
    | _ => none
  | [] => none

def points? : Nat → List Char → Option (List CodePoint × List Char)
  | 0, _ => none
  | _ + 1, [] => none
  | more + 1, c :: rest =>
    if c = '"' then some ([], rest)
    else if c = '\\' then do
      let (point, rest) ← escaped? rest
      let (others, rest) ← points? more rest
      some (point :: others, rest)
    else if c.toNat < 0x20 then none
    else do
      let (others, rest) ← points? more rest
      some (.char c :: others, rest)

def string? (text : List Char) : Option (Text × List Char) :=
  (points? (text.length + 1) text).map fun (points, rest) => (⟨points⟩, rest)

def isNumberChar (c : Char) : Bool :=
  Text.isAsciiDigit c || c == '+' || c == '-' || c == '.' || c == 'e' || c == 'E'

def wellFormedNumber (text : List Char) : Bool :=
  let unsigned := match text with
    | '-' :: rest => rest
    | _ => text
  let whole := unsigned.takeWhile Text.isAsciiDigit
  let afterWhole := unsigned.dropWhile Text.isAsciiDigit
  let pointed := match afterWhole with
    | '.' :: c :: _ => Text.isAsciiDigit c
    | '.' :: [] => false
    | _ => true
  !whole.isEmpty && (whole.length == 1 || whole.head? != some '0') && pointed

def number? (text : List Char) : Option (Json × List Char) :=
  let lexeme := text.takeWhile isNumberChar
  let rest := text.dropWhile isNumberChar
  if wellFormedNumber lexeme then
    (Numeral.read? ⟨Text.isAsciiDigit, fun c => c == 'e' || c == 'E'⟩ lexeme).map fun d =>
      if lexeme.any fun c => c == '.' || c == 'e' || c == 'E' then (.float d.toBinary64, rest)
      else (.int (if d.negative then -d.coefficient else d.coefficient), rest)
  else none

def word? (word : String) (value : Json) (text : List Char) : Option (Json × List Char) :=
  if word.toList.isPrefixOf text then some (value, text.drop word.length) else none

mutual

def value? : Nat → List Char → Option (Json × List Char)
  | 0, _ => none
  | more + 1, text =>
    match skipSpace text with
    | '"' :: rest => (string? rest).map fun (s, rest) => (.string s, rest)
    | '[' :: rest =>
      match skipSpace rest with
      | ']' :: rest => some (.array [], rest)
      | _ => (items? more rest).map fun (items, rest) => (.array items, rest)
    | '{' :: rest =>
      match skipSpace rest with
      | '}' :: rest => some (.object [], rest)
      | _ => (members? more rest).map fun (members, rest) => (.object members, rest)
    | 'n' :: rest => word? "ull" .null rest
    | 't' :: rest => word? "rue" (.bool true) rest
    | 'f' :: rest => word? "alse" (.bool false) rest
    | text => number? text

def items? : Nat → List Char → Option (List Json × List Char)
  | 0, _ => none
  | more + 1, text => do
    let (item, rest) ← value? more text
    match skipSpace rest with
    | ',' :: rest => (items? more rest).map fun (items, rest) => (item :: items, rest)
    | ']' :: rest => some ([item], rest)
    | _ => none

def members? : Nat → List Char → Option (List (Text × Json) × List Char)
  | 0, _ => none
  | more + 1, text =>
    match skipSpace text with
    | '"' :: rest => do
      let (name, rest) ← string? rest
      match skipSpace rest with
      | ':' :: rest =>
        let (value, rest) ← value? more rest
        match skipSpace rest with
        | ',' :: rest =>
          (members? more rest).map fun (members, rest) => ((name, value) :: members, rest)
        | '}' :: rest => some ([(name, value)], rest)
        | _ => none
      | _ => none
    | _ => none

end

def read? (text : String) : Option Json :=
  let characters := text.toList
  match value? (characters.length + 1) characters with
  | some (value, rest) => if (skipSpace rest).isEmpty then some value else none
  | none => none

end UtilityLayout.Json

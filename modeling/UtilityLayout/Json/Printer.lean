import UtilityLayout.Binary64.Shortest
import UtilityLayout.Text.Quoted
import UtilityLayout.Json.Basic
/-! The text of a JSON value, in printable ASCII: a comma or a colon is followed by one space, and every
code point outside U+0020 to U+007E is written as an escape. The three numbers that JSON lacks are written as
bare words. -/
namespace UtilityLayout.Json

def floatStyle : Binary64.TextStyle :=
  { Binary64.TextStyle.plain with infinity := "Infinity", notNumber := "NaN" }

def escapeUnit (unit : Nat) : List Char :=
  '\\' :: 'u' :: Text.hexDigits 4 unit

def escapeCode (code : Nat) : List Char :=
  if code < 0x10000 then escapeUnit code
  else escapeUnit (0xd800 + (code - 0x10000) / 0x400) ++ escapeUnit (0xdc00 + (code - 0x10000) % 0x400)

def escapeChar (c : Char) : List Char :=
  if c = '"' then ['\\', '"']
  else if c = '\\' then ['\\', '\\']
  else if c = '\n' then ['\\', 'n']
  else if c = '\r' then ['\\', 'r']
  else if c = '\t' then ['\\', 't']
  else if c = '\x08' then ['\\', 'b']
  else if c = '\x0c' then ['\\', 'f']
  else if 0x20 ≤ c.toNat && c.toNat ≤ 0x7e then [c]
  else escapeCode c.toNat

def escapePoint : CodePoint → List Char
  | .char c => escapeChar c
  | .half offset => escapeUnit (CodePoint.half offset).code

def quote (t : Text) : String :=
  String.ofList ('"' :: t.points.flatMap escapePoint ++ ['"'])

mutual

def render : Json → String
  | .null => "null"
  | .bool b => if b then "true" else "false"
  | .int i => toString i
  | .float x => x.text floatStyle
  | .string t => quote t
  | .array items => "[" ++ ", ".intercalate (renderItems items) ++ "]"
  | .object members => "\x7b" ++ ", ".intercalate (renderMembers members) ++ "\x7d"

def renderItems : List Json → List String
  | [] => []
  | item :: rest => render item :: renderItems rest

def renderMembers : List (Text × Json) → List String
  | [] => []
  | (name, value) :: rest => (quote name ++ ": " ++ render value) :: renderMembers rest

end

end UtilityLayout.Json

import UtilityLayout.Text.Basic
import UtilityLayout.Text.Hex
import UtilityLayout.Text.Printable
/-! A text between quotes, as messages show it. Single quotes, or double ones where the text holds a
single quote and no double one; a backslash before the quote in use and before a backslash; \t, \n, \r;
every other unprintable code point by its code in two, four or eight hexadecimal digits. Bytes are shown
in the same way, with printable ASCII as it is. -/
namespace UtilityLayout.Text

namespace Quoted

def mark (text : List Char) : Char :=
  if text.contains '\'' && !text.contains '"' then '"' else '\''

def escapeCode (code : Nat) : List Char :=
  if code < 0x100 then '\\' :: 'x' :: hexDigits 2 code
  else if code < 0x10000 then '\\' :: 'u' :: hexDigits 4 code
  else '\\' :: 'U' :: hexDigits 8 code

def encodeChar (isShown : Char → Bool) (quote c : Char) : List Char :=
  if c = quote || c = '\\' then ['\\', c]
  else if c = '\t' then ['\\', 't']
  else if c = '\n' then ['\\', 'n']
  else if c = '\r' then ['\\', 'r']
  else if isShown c then [c]
  else escapeCode c.toNat

def encodePoint (quote : Char) : CodePoint → List Char
  | .char c => encodeChar isPrintable quote c
  | .half offset => escapeCode (CodePoint.half offset).code

def encode (text : Text) : List Char :=
  let quote := mark text.chars
  quote :: text.points.flatMap (encodePoint quote) ++ [quote]

def isPrintableAscii (c : Char) : Bool :=
  0x20 ≤ c.toNat && c.toNat ≤ 0x7e

def encodeBytes (bytes : List UInt8) : List Char :=
  let characters := bytes.map fun b => Char.ofNat b.toNat
  let quote := mark characters
  quote :: characters.flatMap (encodeChar isPrintableAscii quote) ++ [quote]

end Quoted

def quoted (text : Text) : String :=
  String.ofList (Quoted.encode text)

def quotedBytes (bytes : List UInt8) : String :=
  String.ofList ('b' :: Quoted.encodeBytes bytes)

end UtilityLayout.Text

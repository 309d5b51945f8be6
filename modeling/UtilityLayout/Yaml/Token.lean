import UtilityLayout.Yaml.Literal
/-! Tokens of a document. Structure that the text shows by indentation has tokens of its own. -/
namespace UtilityLayout.Yaml

structure TagName where
  handle? : Option String
  suffix : String
  deriving DecidableEq, Repr

inductive Directive where
  | version (major minor : Nat)
  | handle (name value : String)
  | unknown
  deriving DecidableEq, Repr

inductive Token where
  | directive (d : Directive)
  | documentStart
  | documentEnd
  | sequenceStart
  | mappingStart
  | blockEnd
  | openBracket
  | closeBracket
  | openBrace
  | closeBrace
  | entry
  | comma
  | key
  | value
  | alias (name : String)
  | anchor (name : String)
  | tag (name : TagName)
  | scalar (text : Text) (plain : Bool)
  | streamEnd
  deriving DecidableEq, Repr

def isNameChar (c : Char) : Bool :=
  ('0' ≤ c && c ≤ '9') || ('A' ≤ c && c ≤ 'Z') || ('a' ≤ c && c ≤ 'z') || c == '-' || c == '_'

namespace Mark

def name (follows : Option Char → Bool) (c : Cursor) : Except Fault (String × Cursor) :=
  let (characters, c) := c.span isNameChar
  if characters.isEmpty || !follows c.peek? then .error .malformed
  else .ok (String.ofList characters, c)

def afterAnchor : Option Char → Bool :=
  endsOr fun c => isGap c || isBreak c || c == '?' || c == ':' || c == ',' || c == ']' || c == '\x7d' ||
    c == '%' || c == '@' || c == '\x60'

def anchor (c : Cursor) : Except Fault (String × Cursor) :=
  name afterAnchor c.advance

def isTagChar (c : Char) : Bool :=
  isNameChar c || "-;/?:@&=+$,_.!~*'()[]%".toList.contains c

def escapedBytes : Nat → Cursor → Except Fault (List UInt8 × Cursor)
  | 0, _ => .error .malformed
  | fuel + 1, c =>
    match c.rest with
    | '%' :: high :: low :: _ =>
      match Text.hexValue? high, Text.hexValue? low with
      | some high, some low => do
        let (others, c) ← escapedBytes fuel (c.advanceBy 3)
        .ok (UInt8.ofNat (16 * high + low) :: others, c)
      | _, _ => .error .malformed
    | '%' :: _ => .error .malformed
    | _ => .ok ([], c)

def tagText : Nat → Cursor → Except Fault (List Char × Cursor)
  | 0, _ => .error .malformed
  | fuel + 1, c =>
    match c.rest with
    | '%' :: _ => do
      let (bytes, c) ← escapedBytes c.fuel c
      match String.fromUTF8? ⟨bytes.toArray⟩ with
      | some decoded =>
        let (others, c) ← tagText fuel c
        .ok (decoded.toList ++ others, c)
      | none => .error .malformed
    | ch :: _ =>
      if isTagChar ch then do
        let (others, c) ← tagText fuel c.advance
        .ok (ch :: others, c)
      else .ok ([], c)
    | [] => .ok ([], c)

def tagSuffix (c : Cursor) : Except Fault (String × Cursor) := do
  let start := c.index
  let (characters, c) ← tagText c.fuel c
  if c.index = start then .error .malformed else .ok (String.ofList characters, c)

def tagHandle (c : Cursor) : Except Fault (String × Cursor) :=
  match c.rest with
  | '!' :: rest =>
    if rest.head? == some ' ' then .ok ("!", c.advance)
    else
      let characters := rest.takeWhile isNameChar
      if rest[characters.length]? == some '!' then
        .ok (String.ofList ('!' :: characters ++ ['!']), c.advanceBy (characters.length + 2))
      else .error .malformed
  | _ => .error .malformed

def tag (c : Cursor) : Except Fault (TagName × Cursor) := do
  let (name, c) ←
    if c.peekAt? 1 == some '<' then do
      let (suffix, c) ← tagSuffix (c.advanceBy 2)
      if c.peek? == some '>' then pure (⟨none, suffix⟩, c.advance) else throw .malformed
    else if endsToken (c.peekAt? 1) then pure (⟨none, "!"⟩, c.advance)
    else
      let word := c.rest.tail.takeWhile fun ch => !endsWord (some ch)
      if word.contains '!' then do
        let (handle, c) ← tagHandle c
        let (suffix, c) ← tagSuffix c
        pure (⟨some handle, suffix⟩, c)
      else do
        let (suffix, c) ← tagSuffix c.advance
        pure (⟨some "!", suffix⟩, c)
  if endsWord c.peek? then .ok (name, c) else .error .malformed

def versionNumber (c : Cursor) : Except Fault (Nat × Cursor) :=
  let (digits, c) := c.span Text.isAsciiDigit
  if digits.isEmpty || c.sees fun ch => !isAllowed ch then .error .malformed
  else if WholeError.mostDigits < digits.length then .error (.whole (.tooLong digits.length))
  else .ok (Text.digitsValue digits, c)

def skipSpaces (c : Cursor) : Cursor :=
  c.skip (· == ' ')

def directive (c : Cursor) : Except Fault (Directive × Cursor) := do
  let (word, c) ← name endsWord c.advance
  let (directive, c) ←
    if word = "YAML" then do
      let (major, c) ← versionNumber (skipSpaces c)
      if c.peek? != some '.' then throw .malformed
      let (minor, c) ← versionNumber c.advance
      if endsWord c.peek? then pure (.version major minor, c) else throw .malformed
    else if word = "TAG" then do
      let (handle, c) ← tagHandle (skipSpaces c)
      if c.peek? != some ' ' then throw .malformed
      let (value, c) ← tagSuffix (skipSpaces c)
      if endsWord c.peek? then pure (.handle handle value, c) else throw .malformed
    else pure (.unknown, c.skipLine)
  let c ← Block.endOfLine c
  .ok (directive, c)

end Mark
end UtilityLayout.Yaml

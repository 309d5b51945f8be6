import UtilityLayout.Text.Basic
import UtilityLayout.Text.Hex
import UtilityLayout.Proofs.Numeral.Digits

/-! The grammar of JSON texts (RFC 8259). A string is told in the code units of UTF-16, as its escapes are, so that a
character and the two halves that stand for it are one. Outside strings no text of the grammar has a capital letter of
the three words for numbers that JSON lacks. -/
namespace UtilityLayout

def CodePoint.units : CodePoint → List Nat
  | .char c =>
    if c.toNat < 0x10000 then [c.toNat]
    else [0xd800 + (c.toNat - 0x10000) / 0x400, 0xdc00 + (c.toNat - 0x10000) % 0x400]
  | .half offset => [(CodePoint.half offset).code]

def Text.units (t : Text) : List Nat :=
  t.points.flatMap CodePoint.units

namespace Json.Grammar
open Numeral (IsDigits)

def IsGap (text : List Char) : Prop :=
  ∀ c ∈ text, c ∈ [' ', '\t', '\n', '\r']

def IsWhole (text : List Char) : Prop :=
  text = ['0'] ∨ IsDigits text ∧ text.head? ≠ some '0'

def IsFraction (text : List Char) : Prop :=
  text = [] ∨ ∃ digits, IsDigits digits ∧ text = '.' :: digits

def IsExponent (text : List Char) : Prop :=
  text = [] ∨ ∃ mark ∈ ['e', 'E'], ∃ sign ∈ [[], ['+'], ['-']], ∃ digits, IsDigits digits ∧
    text = mark :: sign ++ digits

def IsNumber (text : List Char) : Prop :=
  ∃ sign whole fraction exponent, (sign = [] ∨ sign = ['-']) ∧ IsWhole whole ∧ IsFraction fraction ∧
    IsExponent exponent ∧ text = sign ++ whole ++ fraction ++ exponent

inductive IsUnit : Nat → List Char → Prop where
  | digits {a b c d v w x y} (first : Text.hexValue? a = some v) (second : Text.hexValue? b = some w)
      (third : Text.hexValue? c = some x) (fourth : Text.hexValue? d = some y) :
      IsUnit (0x1000 * v + 0x100 * w + 0x10 * x + y) [a, b, c, d]

def shortEscapes : List (Char × Nat) := [
  ('"', 0x22),
  ('\\', 0x5c),
  ('/', 0x2f),
  ('b', 0x08),
  ('f', 0x0c),
  ('n', 0x0a),
  ('r', 0x0d),
  ('t', 0x09)]

inductive IsBody : List Nat → List Char → Prop where
  | nil : IsBody [] []
  | plain {c units text} (shown : 0x20 ≤ c.toNat) (free : c ≠ '"' ∧ c ≠ '\\') (rest : IsBody units text) :
      IsBody ((CodePoint.char c).units ++ units) (c :: text)
  | short {c unit units text} (known : (c, unit) ∈ shortEscapes) (rest : IsBody units text) :
      IsBody (unit :: units) ('\\' :: c :: text)
  | unit {unit digits units text} (written : IsUnit unit digits) (rest : IsBody units text) :
      IsBody (unit :: units) (['\\', 'u'] ++ digits ++ text)

def quoted (body : List Char) : List Char :=
  '"' :: body ++ ['"']

inductive Part where
  | value
  | spaced
  | items
  | member (name : List Nat) (value : List Char)
  | members (told : List (List Nat × List Char))

inductive Spells : Part → List Char → Prop where
  | null : Spells .value "null".toList
  | yes : Spells .value "true".toList
  | no : Spells .value "false".toList
  | number {text} (number : IsNumber text) : Spells .value text
  | string {units body} (written : IsBody units body) : Spells .value (quoted body)
  | noItems {gap} (blank : IsGap gap) : Spells .value (['['] ++ gap ++ [']'])
  | array {text} (items : Spells .items text) : Spells .value (['['] ++ text ++ [']'])
  | noMembers {gap} (blank : IsGap gap) : Spells .value (['\x7b'] ++ gap ++ ['\x7d'])
  | object {told text} (members : Spells (.members told) text) : Spells .value (['\x7b'] ++ text ++ ['\x7d'])
  | spaced {before text after} (start : IsGap before) (value : Spells .value text) (finish : IsGap after) :
      Spells .spaced (before ++ text ++ after)
  | lastItem {text} (item : Spells .spaced text) : Spells .items text
  | moreItems {text rest} (item : Spells .spaced text) (others : Spells .items rest) :
      Spells .items (text ++ [','] ++ rest)
  | member {units body value before between start finish} (first : IsGap before)
      (name : IsBody units body) (second : IsGap between) (third : IsGap start)
      (spelled : Spells .value value) (fourth : IsGap finish) :
      Spells (.member units value) (before ++ quoted body ++ between ++ [':'] ++ start ++ value ++ finish)
  | lastMember {name value text} (member : Spells (.member name value) text) :
      Spells (.members [(name, value)]) text
  | moreMembers {name value text told rest} (member : Spells (.member name value) text)
      (others : Spells (.members told) rest) : Spells (.members ((name, value) :: told)) (text ++ [','] ++ rest)

def IsJson (text : List Char) : Prop :=
  Spells .spaced text

def IsObject (text : List Char) (told : List (List Nat × List Char)) : Prop :=
  ∃ before members after, IsGap before ∧ Spells (.members told) members ∧ IsGap after ∧
    text = before ++ (['\x7b'] ++ members ++ ['\x7d']) ++ after

theorem objectJson {text : List Char} {told : List (List Nat × List Char)} (object : IsObject text told) :
    IsJson text := by
  obtain ⟨before, members, after, start, spelled, finish, whole⟩ := object
  rw [whole]
  exact .spaced start (.object spelled) finish

end Json.Grammar
end UtilityLayout

import UtilityLayout.Text.Digit
/-! Bytes written in base 64: four characters for three bytes. Characters that are no digits are passed over,
and so is padding that comes too early; padding that completes a group of four ends the text. -/
namespace UtilityLayout.Text.Base64

def digitValue? (c : Char) : Option Nat :=
  if 'A' ≤ c && c ≤ 'Z' then some (c.toNat - 'A'.toNat)
  else if 'a' ≤ c && c ≤ 'z' then some (c.toNat - 'a'.toNat + 26)
  else if isAsciiDigit c then some (c.toNat - '0'.toNat + 52)
  else if c = '+' then some 62
  else if c = '/' then some 63
  else none

inductive Group where
  | empty
  | one (bits : Nat)
  | two (bits : Nat) (padded : Bool)
  | three (bits : Nat)
  deriving DecidableEq, Repr

namespace Group

def push (digit : Nat) : Group → List UInt8 × Group
  | empty => ([], one digit)
  | one bits => ([.ofNat (4 * bits + digit / 16)], two (digit % 16) false)
  | two bits _ => ([.ofNat (16 * bits + digit / 4)], three (digit % 4))
  | three bits => ([.ofNat (64 * bits + digit)], empty)

def pad? : Group → Option Group
  | two bits false => some (two bits true)
  | two _ true | three _ => none
  | group => some group

end Group

def decodeFrom (group : Group) : List Char → Option (List UInt8)
  | [] => if group = .empty then some [] else none
  | c :: rest =>
    if c = '=' then
      match group.pad? with
      | some group => decodeFrom group rest
      | none => some []
    else match digitValue? c with
      | some digit =>
        let (bytes, group) := group.push digit
        (decodeFrom group rest).map (bytes ++ ·)
      | none => decodeFrom group rest

def decode? (text : List Char) : Option (List UInt8) :=
  decodeFrom .empty text

end UtilityLayout.Text.Base64
